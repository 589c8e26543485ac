import Mathlib.Algebra.Order.BigOperators.Group.List
import Mathlib.Algebra.Order.Ring.Nat
import StormPiper.Csv.Reader

/-!
# The CSV export

`convertToCSV` writes the records of an array below a header.  It separates the values of a record
where the line is not empty so far, writes values as they are, and puts the header into the
caller's array.  So a record that begins with an empty text loses columns, texts with a comma, a
quote or a line break change the columns, and each export of the same array has one more header.

## Main definitions

* `convertToCSV` : the text, and the array after the call.
* `exportTimes` : exports of the same array one after the other.
* `ExportTable` : a header and records with its keys.
* `ExportTable.FaithfulExports` : what an export is for.
* `ExportTable.faithfulExports_iff` : which exports are what they are for.
-/

namespace StormPiper

/-- A number, by its shortest decimal digits: `0.d₁d₂... * 10 ^ point` with `d₁` the first. -/
inductive JsNumber where
  | nan
  | zero
  | infinity (negative : Bool)
  | decimal (negative : Bool) (first : Fin 10) (rest : List (Fin 10)) (point : ℤ)
  deriving Repr, DecidableEq

/-- A value of a flat record. -/
inductive JsValue where
  | string (s : String)
  | number (x : JsNumber)
  deriving Repr, DecidableEq

/-- A flat record: its keys and values in the order in which a loop meets them. -/
abbrev JsRecord := List (String × JsValue)

namespace JsNumber

/-- The characters of digits. -/
def digits (ds : List (Fin 10)) : List Char := ds.map fun d : Fin 10 => Nat.digitChar d.val

/-- The text with a minus sign before it. -/
def signed (negative : Bool) (text : List Char) : List Char :=
  if negative then '-' :: text else text

/-- The digits of a number and its decimal point. -/
def positional (ds : List (Fin 10)) (point : ℤ) : List Char :=
  if (ds.length : ℤ) ≤ point then digits ds ++ List.replicate (point - ds.length).toNat '0'
  else if 0 < point then digits (ds.take point.toNat) ++ '.' :: digits (ds.drop point.toNat)
  else '0' :: '.' :: (List.replicate (-point).toNat '0' ++ digits ds)

/-- The scientific notation. -/
def scientific (first : Fin 10) (rest : List (Fin 10)) (point : ℤ) : List Char :=
  Nat.digitChar first :: (if rest = [] then [] else '.' :: digits rest) ++
    'e' :: (if 0 < point then '+' else '-') :: Nat.toDigits 10 (point - 1).natAbs

/-- `String(x)`. -/
def text : JsNumber → List Char
  | nan => ['N', 'a', 'N']
  | zero => ['0']
  | infinity negative => signed negative ['I', 'n', 'f', 'i', 'n', 'i', 't', 'y']
  | decimal negative first rest point =>
    signed negative <|
      if -5 ≤ point ∧ point ≤ 21 then positional (first :: rest) point
      else scientific first rest point

end JsNumber

/-- `String(value)`. -/
def JsValue.text : JsValue → String
  | string s => s
  | number x => String.ofList x.text

namespace JsRecord

/-- `record[key] = value`.  The key of the prototype takes objects only: a text assigned to it is
dropped. -/
def assign (record : JsRecord) (key : String) (value : JsValue) : JsRecord :=
  if key = "__proto__" then record
  else if key ∈ record.map Prod.fst then
    record.map fun entry => if entry.1 = key then (key, value) else entry
  else record ++ [(key, value)]

/-- The values as texts. -/
def cells (record : JsRecord) : List (List Char) := record.map fun entry => entry.2.text.toList

/-- The inner loop of `convertToCSV`. -/
def csvLine (record : JsRecord) : String :=
  record.foldl (fun line entry => (if line ≠ "" then line ++ "," else line) ++ entry.2.text) ""

end JsRecord

/-- `headersFormatted`: each header under its own name. -/
def headersFormatted (headers : List String) : JsRecord :=
  headers.foldl (fun record k => record.assign k (.string k)) []

/-- The outer loop of `convertToCSV`. -/
def csvText (array : List JsRecord) : String :=
  array.foldl (fun str record => str ++ (record.csvLine ++ "\r\n")) ""

/-- `convertToCSV` for an array: the text, and the array after the call. -/
def convertToCSV (array : List JsRecord) (headers : Option (List String)) :
    String × List JsRecord :=
  let array :=
    match headers with
    | none => array
    | some headers => headersFormatted headers :: array
  (csvText array, array)

/-- Exports one after the other: the texts, and the array after them. -/
def exportTimes (headers : List String) : ℕ → List JsRecord → List String × List JsRecord
  | 0, array => ([], array)
  | n + 1, array =>
    let first := convertToCSV array (some headers)
    let rest := exportTimes headers n first.2
    (first.1 :: rest.1, rest.2)

/-! ### Numbers are written without separators -/

namespace JsNumber

open Csv (isTextdata)

theorem isTextdata_digitChar (d : Fin 10) : isTextdata (Nat.digitChar d) = true := by
  revert d
  decide

theorem isTextdata_digits (ds : List (Fin 10)) : ∀ c ∈ digits ds, isTextdata c = true := by
  intro c hc
  obtain ⟨d, -, rfl⟩ := List.mem_map.1 hc
  exact isTextdata_digitChar d

theorem isTextdata_of_isDigit {c : Char} (h : c.isDigit = true) : isTextdata c = true := by
  have hne : ∀ s : Char, s.isDigit = false → c ≠ s := by
    rintro s hs rfl
    rw [hs] at h
    cases h
  simp [isTextdata, hne]

theorem isTextdata_replicate (n : ℕ) : ∀ c ∈ List.replicate n '0', isTextdata c = true := by
  intro c hc
  rw [List.eq_of_mem_replicate hc]
  decide

theorem isTextdata_positional (ds : List (Fin 10)) (point : ℤ) :
    ∀ c ∈ positional ds point, isTextdata c = true := by
  have hpoint : isTextdata '.' = true := by decide
  have hzero : isTextdata '0' = true := by decide
  unfold positional
  split_ifs
  · exact List.forall_mem_append.2 ⟨isTextdata_digits ds, isTextdata_replicate _⟩
  · exact List.forall_mem_append.2 ⟨isTextdata_digits _,
      List.forall_mem_cons.2 ⟨hpoint, isTextdata_digits _⟩⟩
  · exact List.forall_mem_cons.2 ⟨hzero, List.forall_mem_cons.2 ⟨hpoint,
      List.forall_mem_append.2 ⟨isTextdata_replicate _, isTextdata_digits ds⟩⟩⟩

theorem isTextdata_scientific (first : Fin 10) (rest : List (Fin 10)) (point : ℤ) :
    ∀ c ∈ scientific first rest point, isTextdata c = true := by
  have hexp : ∀ c ∈ Nat.toDigits 10 (point - 1).natAbs, isTextdata c = true := fun c hc =>
    isTextdata_of_isDigit (Nat.isDigit_of_mem_toDigits (by decide) (by decide) hc)
  have hsign : isTextdata (if 0 < point then '+' else '-') = true := by
    split_ifs <;> decide
  have hrest : ∀ c ∈ (if rest = [] then [] else '.' :: digits rest), isTextdata c = true := by
    split_ifs
    · simp
    · exact List.forall_mem_cons.2 ⟨by decide, isTextdata_digits rest⟩
  exact List.forall_mem_cons.2 ⟨isTextdata_digitChar first, List.forall_mem_append.2
    ⟨hrest, List.forall_mem_cons.2 ⟨by decide, List.forall_mem_cons.2 ⟨hsign, hexp⟩⟩⟩⟩

theorem isTextdata_signed (negative : Bool) {text : List Char}
    (h : ∀ c ∈ text, isTextdata c = true) : ∀ c ∈ signed negative text, isTextdata c = true := by
  cases negative with
  | false => exact h
  | true => exact List.forall_mem_cons.2 ⟨by decide, h⟩

/-- A number has no character that would have to stand between quotes. -/
theorem isTextdata_text (x : JsNumber) : ∀ c ∈ x.text, isTextdata c = true := by
  cases x with
  | nan => exact List.all_eq_true.1 (by decide)
  | zero => exact List.all_eq_true.1 (by decide)
  | infinity negative => exact isTextdata_signed negative (List.all_eq_true.1 (by decide))
  | decimal negative first rest point =>
    refine isTextdata_signed negative ?_
    split_ifs
    · exact isTextdata_positional _ _
    · exact isTextdata_scientific _ _ _

theorem text_ne_nil (x : JsNumber) : x.text ≠ [] := by
  have hsigned : ∀ (negative : Bool) (text : List Char), text ≠ [] → signed negative text ≠ [] := by
    intro negative text h
    cases negative with
    | false => exact h
    | true => exact List.cons_ne_nil _ _
  cases x with
  | nan => exact List.cons_ne_nil _ _
  | zero => exact List.cons_ne_nil _ _
  | infinity negative => exact hsigned negative _ (List.cons_ne_nil _ _)
  | decimal negative first rest point =>
    refine hsigned negative _ ?_
    split_ifs
    · unfold positional
      split_ifs <;> simp [digits]
    · exact List.cons_ne_nil _ _

end JsNumber

/-! ### What is written -/

namespace JsValue

/-- The value needs no quotes. -/
def IsPlain : JsValue → Prop
  | string s => ∀ c ∈ s.toList, Csv.isTextdata c = true
  | number _ => True

/-- The text of the value is empty. -/
def IsEmpty : JsValue → Prop
  | string s => s = ""
  | number _ => False

theorem isPlain_iff (v : JsValue) :
    v.IsPlain ↔ ∀ c ∈ v.text.toList, Csv.isTextdata c = true := by
  cases v with
  | string s => rfl
  | number x =>
    rw [text, String.toList_ofList]
    exact iff_of_true trivial x.isTextdata_text

theorem isEmpty_iff (v : JsValue) : v.IsEmpty ↔ v.text.toList = [] := by
  cases v with
  | string s => exact String.toList_eq_nil_iff.symm
  | number x =>
    rw [text, String.toList_ofList]
    exact iff_of_false id x.text_ne_nil

end JsValue

namespace JsRecord

open Csv

/-- No value needs quotes, and the first one is not empty unless it is the only one. -/
structure Readable (record : JsRecord) : Prop where
  plain : ∀ entry ∈ record, entry.2.IsPlain
  first : ∃ entry rest, record = entry :: rest ∧ (rest = [] ∨ ¬ entry.2.IsEmpty)

/-- Once the line is not empty, each value has its separator. -/
theorem toList_csvLine_from (record : JsRecord) {before : String} (h : before ≠ "") :
    (record.foldl (fun line entry => (if line ≠ "" then line ++ "," else line) ++ entry.2.text)
        before).toList =
      before.toList ++ record.cells.flatMap fun cell => ',' :: cell := by
  induction record generalizing before with
  | nil => simp [cells]
  | cons entry record ih =>
    have hne : before ++ "," ++ entry.2.text ≠ "" := by
      intro hempty
      have hlist := congrArg String.toList hempty
      simp at hlist
    rw [List.foldl_cons, if_pos h, ih hne]
    simp [cells]

/-- **Empty values at the beginning of a record are left out**, with their separators. -/
theorem toList_csvLine (record : JsRecord) :
    record.csvLine.toList = line (record.cells.dropWhile fun cell => decide (cell = [])) := by
  induction record with
  | nil => rfl
  | cons entry record ih =>
    have hstart : csvLine (entry :: record) = record.foldl
        (fun line entry => (if line ≠ "" then line ++ "," else line) ++ entry.2.text)
          entry.2.text := by
      simp [csvLine]
    by_cases hempty : entry.2.text.toList = []
    · have hrest : csvLine (entry :: record) = csvLine record := by
        rw [hstart, String.toList_eq_nil_iff.1 hempty]
        rfl
      rw [hrest, ih]
      simp [cells, hempty]
    · rw [hstart, toList_csvLine_from _ (mt String.toList_eq_nil_iff.2 hempty)]
      simp [cells, hempty, line]

/-- What is left out makes the line shorter than the record. -/
theorem length_line_dropWhile {record : List (List Char)} (h : record ≠ []) :
    (line (record.dropWhile fun cell => decide (cell = []))).length + 1 ≤ recordSize record ∧
      ((line (record.dropWhile fun cell => decide (cell = []))).length + 1 = recordSize record →
        ∃ cell rest, record = cell :: rest ∧ (rest = [] ∨ cell ≠ [])) := by
  induction record with
  | nil => exact absurd rfl h
  | cons cell rest ih =>
    by_cases hcell : cell = []
    · subst hcell
      rw [List.dropWhile_cons_of_pos (by simp)]
      cases rest with
      | nil => exact ⟨by simp [line, recordSize], fun _ => ⟨[], [], rfl, .inl rfl⟩⟩
      | cons next rest =>
        have hsize : recordSize ([] :: next :: rest) = recordSize (next :: rest) + 1 := by
          simp [recordSize]
          omega
        obtain ⟨hle, -⟩ := ih (List.cons_ne_nil _ _)
        exact ⟨by omega, fun heq => by omega⟩
    · rw [List.dropWhile_cons_of_neg (by simpa using hcell)]
      exact ⟨(length_line h).le, fun _ => ⟨cell, rest, rfl, .inr hcell⟩⟩

theorem length_csvLine {record : JsRecord} (h : record.cells ≠ []) :
    record.csvLine.toList.length + 1 ≤ recordSize record.cells ∧
      (record.csvLine.toList.length + 1 = recordSize record.cells →
        ∃ cell rest, record.cells = cell :: rest ∧ (rest = [] ∨ cell ≠ [])) := by
  rw [toList_csvLine]
  exact length_line_dropWhile h

theorem length_csvLine_le (record : JsRecord) :
    record.csvLine.toList.length ≤ recordSize record.cells := by
  by_cases h : record.cells = []
  · rw [toList_csvLine, h]
    simp [line, recordSize]
  · exact (Nat.le_succ _).trans (length_csvLine h).1

/-- A readable record is written as a line of plain fields. -/
theorem Readable.toList_csvLine {record : JsRecord} (h : record.Readable) :
    record.csvLine.toList = line record.cells ∧ Plain record.cells := by
  obtain ⟨hplain, entry, rest, rfl, hfirst⟩ := h
  refine ⟨?_, List.cons_ne_nil _ _, ?_⟩
  · rw [JsRecord.toList_csvLine]
    by_cases hempty : entry.2.text.toList = []
    · obtain rfl := hfirst.resolve_right (not_not.2 ((JsValue.isEmpty_iff _).2 hempty))
      simp [cells, hempty, line]
    · exact congrArg line (List.dropWhile_cons_of_neg (by simpa using hempty))
  · intro cell hcell
    obtain ⟨entry, hentry, rfl⟩ := List.mem_map.1 hcell
    exact (JsValue.isPlain_iff _).1 (hplain entry hentry)

/-- A record is readable if its values are plain fields, and its line is as long as they are. -/
theorem readable_of_length {record : JsRecord} (hplain : Plain record.cells)
    (hlength : record.csvLine.toList.length + 1 = recordSize record.cells) : record.Readable := by
  refine ⟨fun entry hentry => ?_, ?_⟩
  · exact (JsValue.isPlain_iff _).2 (hplain.text _ (List.mem_map_of_mem hentry))
  · obtain ⟨cell, rest, hcells, hfirst⟩ := (length_csvLine hplain.ne_nil).2 hlength
    obtain ⟨entry, record, rfl, rfl, rfl⟩ := List.map_eq_cons_iff.1 hcells
    refine ⟨entry, record, rfl, ?_⟩
    rw [JsValue.isEmpty_iff]
    exact hfirst.imp List.map_eq_nil_iff.1 id

end JsRecord

/-! ### What is read back -/

open Csv

theorem toList_csvText (array : List JsRecord) :
    (csvText array).toList = array.flatMap fun record => record.csvLine.toList ++ crlf := by
  have hfold : ∀ str : String,
      (array.foldl (fun str record => str ++ (record.csvLine ++ "\r\n")) str).toList =
        str.toList ++ array.flatMap fun record => record.csvLine.toList ++ crlf := by
    induction array with
    | nil => simp
    | cons record array ih =>
      intro str
      rw [List.foldl_cons, ih]
      simp [crlf]
  rw [csvText, hfold, String.toList_empty, List.nil_append]

theorem length_csvText (array : List JsRecord) :
    (csvText array).toList.length =
      (array.map fun record => record.csvLine.toList.length + 2).sum := by
  simp [toList_csvText, List.length_flatMap, crlf]

/-- The text ends with a line feed, so no more than its length is read from it. -/
theorem size_le_of_read_csvText {array : List JsRecord} (harray : array ≠ [])
    {records : List (List (List Char))} (h : Csv.read (csvText array).toList = some records) :
    (∀ record ∈ records, record ≠ []) ∧ size records ≤ (csvText array).toList.length ∧
      (size records = (csvText array).toList.length → ∀ record ∈ records, Plain record) := by
  obtain ⟨before, last, hlast⟩ := (List.eq_nil_or_concat array).resolve_left harray
  have htext : (csvText array).toList =
      before.flatMap (fun record => record.csvLine.toList ++ crlf) ++
        (last.csvLine.toList ++ ['\r']) ++ ['\n'] := by
    rw [toList_csvText, hlast]
    simp [crlf]
  rw [htext] at h ⊢
  rw [List.length_append, List.length_singleton]
  exact size_le_of_read h

theorem size_map_cells (array : List JsRecord) : size (array.map JsRecord.cells) =
    (array.map fun record => recordSize record.cells + 1).sum := by
  simp [size, Function.comp_def]

/-- **Which arrays are read back.** -/
theorem read_csvText_iff (array : List JsRecord) :
    Csv.read (csvText array).toList = some (array.map JsRecord.cells) ↔
      ∀ record ∈ array, record.Readable := by
  constructor
  · intro h record hrecord
    have hmem := List.mem_map_of_mem (f := JsRecord.cells) hrecord
    obtain ⟨hne, hle, hplain⟩ := size_le_of_read_csvText (List.ne_nil_of_mem hrecord) h
    rw [size_map_cells, length_csvText] at hle hplain
    have hshort : ∀ record ∈ array,
        record.csvLine.toList.length + 2 ≤ recordSize record.cells + 1 := fun record hrecord =>
      Nat.add_le_add_right
        (JsRecord.length_csvLine (hne _ (List.mem_map_of_mem hrecord))).1 1
    -- a line that is shorter than its record would make the text shorter than what is read
    have heq : record.csvLine.toList.length + 2 = recordSize record.cells + 1 := by
      by_contra hnot
      exact absurd hle (not_le.2 (List.sum_lt_sum _ _ hshort
        ⟨record, hrecord, lt_of_le_of_ne (hshort _ hrecord) hnot⟩))
    exact JsRecord.readable_of_length
      (hplain (le_antisymm hle (List.sum_le_sum hshort)) _ hmem) (by omega)
  · intro h
    have htext : (csvText array).toList =
        (array.map JsRecord.cells).flatMap fun cells => line cells ++ crlf := by
      rw [toList_csvText, List.flatMap_map]
      refine List.flatMap_congr fun record hrecord => ?_
      rw [(h record hrecord).toList_csvLine.1]
    rw [htext]
    refine read_eq_of_plain fun cells hcells => ?_
    obtain ⟨record, hrecord, rfl⟩ := List.mem_map.1 hcells
    exact (h record hrecord).toList_csvLine.2

/-! ### Exports of the same array -/

/-- The header is a record of its keys, without that of the prototype. -/
theorem headersFormatted_eq {headers : List String} (h : headers.Nodup) :
    headersFormatted headers = (headers.erase "__proto__").map fun k => (k, .string k) := by
  have hfold : ∀ record : JsRecord, (∀ k ∈ headers, k ∉ record.map Prod.fst) →
      headers.foldl (fun record k => record.assign k (.string k)) record =
        record ++ (headers.erase "__proto__").map fun k => (k, .string k) := by
    induction headers with
    | nil => simp
    | cons k headers ih =>
      intro record hnew
      rw [List.nodup_cons] at h
      have hlater : ∀ k ∈ headers, k ∉ record.map Prod.fst := fun k hk =>
        hnew k (List.mem_cons_of_mem _ hk)
      rw [List.foldl_cons, JsRecord.assign]
      by_cases hproto : k = "__proto__"
      · rw [if_pos hproto, ih h.2 record hlater, ← hproto, List.erase_cons_head,
          List.erase_of_not_mem h.1]
      · rw [if_neg hproto, if_neg (hnew k List.mem_cons_self), ih h.2,
          List.erase_cons_tail (by simpa using hproto)]
        · simp
        · intro k' hk' hmem
          rw [List.map_append, List.mem_append] at hmem
          rcases hmem with hmem | hmem
          · exact hlater k' hk' hmem
          · obtain rfl := List.mem_singleton.1 hmem
            exact h.1 hk'
  rw [headersFormatted, hfold [] (by simp), List.nil_append]

theorem cells_headersFormatted {headers : List String} (h : headers.Nodup) :
    (headersFormatted headers).cells = (headers.erase "__proto__").map String.toList := by
  simp [headersFormatted_eq h, JsRecord.cells, JsValue.text]

/-- Without a column the header is shorter than its keys. -/
theorem length_csvLine_headersFormatted {headers : List String} (h : headers.Nodup)
    (hproto : "__proto__" ∈ headers) :
    (headersFormatted headers).csvLine.toList.length + 1 <
      recordSize (headers.map String.toList) := by
  have hsize : recordSize (headers.map String.toList) =
      "__proto__".toList.length + 1 + recordSize (headersFormatted headers).cells := by
    rw [cells_headersFormatted h]
    simp only [recordSize, List.map_map]
    exact ((List.perm_cons_erase hproto).map _).sum_eq.trans (List.sum_cons ..)
  have hlength : "__proto__".toList.length = 9 := by decide +kernel
  have hle := (headersFormatted headers).length_csvLine_le
  omega

/-- Each export leaves one more header in the array. -/
theorem exportTimes_snd (headers : List String) (n : ℕ) (array : List JsRecord) :
    (exportTimes headers n array).2 = List.replicate n (headersFormatted headers) ++ array := by
  induction n generalizing array with
  | zero => rfl
  | succ n ih =>
    refine (ih _).trans ?_
    rw [List.replicate_succ', List.append_assoc]
    rfl

/-- A header, and records with its keys.  A loop meets the keys of a record in the order of the
header, and so those of the header's own object. -/
structure ExportTable where
  headers : List String
  nodup : headers.Nodup
  records : List JsRecord
  records_ne_nil : records ≠ []
  keys : ∀ record ∈ records, record.map Prod.fst = headers

namespace ExportTable

variable (t : ExportTable) (n : ℕ)

/-- The texts of the exports. -/
def texts : List String := (exportTimes t.headers n t.records).1

/-- All exports give the same text. -/
def Repeatable : Prop := ∀ text ∈ t.texts n, ∀ text' ∈ t.texts n, text = text'

/-- The array is after the exports what it was before. -/
def ArrayUnchanged : Prop := (exportTimes t.headers n t.records).2 = t.records

/-- What is to be read from an export. -/
def contents : List (List (List Char)) :=
  t.headers.map String.toList :: t.records.map JsRecord.cells

/-- The header and the records are read from each text. -/
def ReadsBack : Prop := ∀ text ∈ t.texts n, Csv.read text.toList = some t.contents

/-- What an export is for. -/
structure FaithfulExports : Prop where
  repeatable : t.Repeatable n
  unchanged : t.ArrayUnchanged n
  readsBack : t.ReadsBack n

/-- The array of the first export. -/
def exported : List JsRecord := headersFormatted t.headers :: t.records

@[simp] theorem texts_zero : t.texts 0 = [] := rfl

@[simp] theorem texts_one : t.texts 1 = [csvText t.exported] := rfl

theorem texts_add_two : ∃ later, t.texts (n + 2) =
    csvText t.exported :: csvText (headersFormatted t.headers :: t.exported) :: later :=
  ⟨_, rfl⟩

theorem map_cells_exported (h : "__proto__" ∉ t.headers) :
    t.exported.map JsRecord.cells = t.contents := by
  rw [exported, List.map_cons, cells_headersFormatted t.nodup, List.erase_of_not_mem h, contents]

/-- A second export is longer than the first. -/
theorem repeatable_iff : t.Repeatable n ↔ n ≤ 1 := by
  match n with
  | 0 => simp [Repeatable]
  | 1 => simp [Repeatable]
  | n + 2 =>
    refine iff_of_false (fun h => ?_) (by omega)
    obtain ⟨later, htexts⟩ := t.texts_add_two n
    rw [Repeatable, htexts] at h
    have hsame := congrArg (fun text => text.toList.length)
      (h _ List.mem_cons_self _ (List.mem_cons_of_mem _ List.mem_cons_self))
    simp only [length_csvText, List.map_cons, List.sum_cons] at hsame
    omega

theorem arrayUnchanged_iff : t.ArrayUnchanged n ↔ n = 0 := by
  rw [ArrayUnchanged, exportTimes_snd]
  constructor
  · intro h
    have hlength := congrArg List.length h
    simpa using hlength
  · rintro rfl
    rfl

/-- The array of an export can be read back. -/
structure Readable : Prop where
  proto : "__proto__" ∉ t.headers
  records : ∀ record ∈ t.exported, record.Readable

/-- **Which first exports are read back.** -/
theorem read_exported_iff :
    Csv.read (csvText t.exported).toList = some t.contents ↔ t.Readable := by
  by_cases hproto : "__proto__" ∈ t.headers
  · refine iff_of_false (fun h => ?_) fun h => h.proto hproto
    -- the header of the text is too short for what is read
    obtain ⟨hne, hle, -⟩ := size_le_of_read_csvText (List.cons_ne_nil _ _) h
    have hheader := length_csvLine_headersFormatted t.nodup hproto
    have hrecords : (t.records.map fun record => record.csvLine.toList.length + 2).sum ≤
        (t.records.map fun record => recordSize record.cells + 1).sum :=
      List.sum_le_sum fun record hrecord => Nat.add_le_add_right (JsRecord.length_csvLine
        (hne _ (List.mem_cons_of_mem _ (List.mem_map_of_mem hrecord)))).1 1
    have hsize : size t.contents = recordSize (t.headers.map String.toList) + 1 +
        (t.records.map fun record => recordSize record.cells + 1).sum := by
      rw [← size_map_cells]
      rfl
    rw [hsize, length_csvText, List.map_cons, List.sum_cons] at hle
    omega
  · rw [← t.map_cells_exported hproto, read_csvText_iff]
    exact ⟨fun h => ⟨hproto, h⟩, Readable.records⟩

/-- What is read from the first text decides about the characters, and then the second text has a
record too many. -/
theorem readsBack_iff : t.ReadsBack n ↔ n = 0 ∨ n = 1 ∧ t.Readable := by
  match n with
  | 0 => simp [ReadsBack]
  | 1 => simp [ReadsBack, read_exported_iff]
  | n + 2 =>
    refine iff_of_false (fun h => ?_) (by omega)
    obtain ⟨later, htexts⟩ := t.texts_add_two n
    rw [ReadsBack, htexts] at h
    have hreadable := t.read_exported_iff.1 (h _ List.mem_cons_self)
    have hsecond := h _ (List.mem_cons_of_mem _ List.mem_cons_self)
    have htwice : ∀ record ∈ headersFormatted t.headers :: t.exported, record.Readable :=
      List.forall_mem_cons.2 ⟨hreadable.records _ List.mem_cons_self, hreadable.records⟩
    rw [(read_csvText_iff _).2 htwice, List.map_cons, t.map_cells_exported hreadable.proto]
      at hsecond
    have hlength := congrArg List.length (Option.some.inj hsecond)
    simp at hlength

/-- **No export is faithful.**  The array is changed by each, the second text is not the first, and
the first is read back exactly where no value needs quotes and no record of several values begins
with an empty one. -/
theorem faithfulExports_iff :
    (t.FaithfulExports n ↔ n = 0) ∧ (t.ArrayUnchanged n ↔ n = 0) ∧ (t.Repeatable n ↔ n ≤ 1) ∧
      (t.ReadsBack n ↔ n = 0 ∨ n = 1 ∧ t.Readable) := by
  refine ⟨⟨fun h => (t.arrayUnchanged_iff n).1 h.unchanged, ?_⟩, t.arrayUnchanged_iff n,
    t.repeatable_iff n, t.readsBack_iff n⟩
  rintro rfl
  exact ⟨(t.repeatable_iff 0).2 (Nat.zero_le 1), (t.arrayUnchanged_iff 0).2 rfl,
    (t.readsBack_iff 0).2 (.inl rfl)⟩

/-- A table with a comma in a title. -/
def withComma : ExportTable where
  headers := ["year", "title"]
  nodup := by decide
  records := [[("year", .number (.decimal false 2 [0, 2, 4] 4)), ("title", .string "Pond, North")]]
  records_ne_nil := List.cons_ne_nil _ _
  keys := by decide

example : csvText withComma.exported = "year,title\r\n2024,Pond, North\r\n" := by decide +kernel

theorem not_faithfulExports_withComma :
    ¬ withComma.FaithfulExports 1 ∧ ¬ withComma.Repeatable 2 ∧ ¬ withComma.ReadsBack 1 := by
  have hchanged : (exportTimes withComma.headers 1 withComma.records).2 ≠ withComma.records := by
    decide +kernel
  have hrepeat : ¬ ∀ text ∈ withComma.texts 2, ∀ text' ∈ withComma.texts 2, text = text' := by
    decide +kernel
  have hread : ¬ ∀ text ∈ withComma.texts 1,
      Csv.read text.toList = some withComma.contents := by
    decide +kernel
  exact ⟨fun h => hchanged h.unchanged, hrepeat, hread⟩

end ExportTable

end StormPiper
