import Mathlib.Algebra.BigOperators.Group.List.Basic
import Mathlib.Algebra.Ring.Nat

/-!
# Reading comma-separated values

A reader for the CSV format of RFC 4180, as a machine that takes one character at a time.  A field
is given plainly, or between quotes; between quotes a quote is written twice, and everything else
stands for itself.  Records end with CR LF, which may be missing at the end of the text.

A text without quotes is as long as what is read from it, and quotes make it longer
(`Csv.size_le_of_read`).  So text that is no longer than its contents has no quoted field, and
nothing in it has a comma, a quote or a line break.

## Main definitions

* `Csv.Reader.step` : one character.
* `Csv.read` : the records of a text.
* `Csv.line` : a record of plain fields.
* `Csv.size` : the length of plainly written records.
-/

namespace StormPiper

namespace Csv

/-- A character that can be part of a field without quotes. -/
def isTextdata (c : Char) : Bool := c ≠ '\"' && c ≠ ',' && c ≠ '\r' && c ≠ '\n'

/-- Where the reader stands in a record. -/
inductive Mode where
  /-- Before the first character of a field. -/
  | start
  /-- In a field without quotes. -/
  | plain
  /-- Between quotes. -/
  | quoted
  /-- After a quote between quotes: the end of the field, or the first half of a quote in it. -/
  | quote
  /-- After the CR at the end of a record. -/
  | cr
  deriving Repr, DecidableEq

/-- What was read so far. -/
structure Reader where
  mode : Mode
  field : List Char
  record : List (List Char)
  records : List (List (List Char))
  deriving Repr, DecidableEq

namespace Reader

/-- Before a record. -/
def atRecord (records : List (List (List Char))) : Reader := ⟨.start, [], [], records⟩

/-- The character is part of the field. -/
def push (r : Reader) (mode : Mode) (c : Char) : Reader := { r with mode, field := r.field ++ [c] }

/-- The field ends. -/
def endField (r : Reader) : Reader :=
  { r with mode := .start, field := [], record := r.record ++ [r.field] }

/-- The record ends with its last field. -/
def endRecord (r : Reader) : Reader := atRecord (r.records ++ [r.record ++ [r.field]])

/-- What ends a field. -/
def separate (r : Reader) (c : Char) : Option Reader :=
  if c = ',' then some r.endField
  else if c = '\r' then some { r with mode := .cr }
  else none

/-- A character where no quotes are open. -/
def unquoted (r : Reader) (c : Char) : Option Reader :=
  if isTextdata c then some (r.push .plain c) else r.separate c

/-- One character. -/
def step (r : Reader) (c : Char) : Option Reader :=
  match r.mode with
  | .start => if c = '\"' then some { r with mode := .quoted } else r.unquoted c
  | .plain => r.unquoted c
  | .quoted => some (if c = '\"' then { r with mode := .quote } else r.push .quoted c)
  | .quote => if c = '\"' then some (r.push .quoted c) else r.separate c
  | .cr => if c = '\n' then some r.endRecord else none

/-- The end of the text. -/
def finish (r : Reader) : Option (List (List (List Char))) :=
  match r.mode with
  | .start => some (if r.record = [] then r.records else r.endRecord.records)
  | .plain => some r.endRecord.records
  | .quoted => none
  | .quote => some r.endRecord.records
  | .cr => none

/-- The text from where the reader stands. -/
def run (r : Reader) (text : List Char) : Option Reader := text.foldlM step r

end Reader

/-- The records of a text. -/
def read (text : List Char) : Option (List (List (List Char))) :=
  (Reader.atRecord []).run text >>= Reader.finish

/-- Plain fields with commas between them. -/
def line : List (List Char) → List Char
  | [] => []
  | field :: fields => field ++ fields.flatMap fun field => ',' :: field

/-- `CRLF` -/
def crlf : List Char := ['\r', '\n']

/-- The length of a record of plain fields with a separator after each. -/
def recordSize (record : List (List Char)) : ℕ := (record.map fun field => field.length + 1).sum

/-- The length of records of plain fields. -/
def size (records : List (List (List Char))) : ℕ :=
  (records.map fun record => recordSize record + 1).sum

/-- A record that has fields, without a character that would have to stand between quotes. -/
structure Plain (record : List (List Char)) : Prop where
  ne_nil : record ≠ []
  text : ∀ field ∈ record, ∀ c ∈ field, isTextdata c = true

theorem length_line {record : List (List Char)} (h : record ≠ []) :
    (line record).length + 1 = recordSize record := by
  cases record with
  | nil => exact absurd rfl h
  | cons field fields =>
    simp only [line, recordSize, List.length_append, List.length_flatMap, List.length_cons,
      List.map_cons, List.sum_cons]
    omega

namespace Reader

theorem run_append (r : Reader) (xs ys : List Char) :
    r.run (xs ++ ys) = r.run xs >>= fun r' => r'.run ys :=
  List.foldlM_append

theorem run_cons (r : Reader) (c : Char) (cs : List Char) :
    r.run (c :: cs) = r.step c >>= fun r' => r'.run cs :=
  List.foldlM_cons

/-- The first character of a text that is read is read. -/
theorem run_cons_eq_some {r r' : Reader} {c : Char} {cs : List Char} :
    r.run (c :: cs) = some r' ↔ ∃ r₁, r.step c = some r₁ ∧ r₁.run cs = some r' := by
  rw [run_cons, Option.bind_eq_bind, Option.bind_eq_some_iff]

theorem run_append_eq_some {r r' : Reader} {xs ys : List Char} :
    r.run (xs ++ ys) = some r' ↔ ∃ r₁, r.run xs = some r₁ ∧ r₁.run ys = some r' := by
  rw [run_append, Option.bind_eq_bind, Option.bind_eq_some_iff]

/-! ### Plain records are read as they are -/

/-- A field without quotes is open. -/
def Open (r : Reader) : Prop := r.mode = .start ∨ r.mode = .plain

theorem step_textdata {r : Reader} (hopen : r.Open) {c : Char} (hc : isTextdata c = true) :
    r.step c = some (r.push .plain c) := by
  have hquote : c ≠ '\"' := by
    rintro rfl
    cases hc
  rcases hopen with h | h <;> simp [step, h, hquote, unquoted, hc]

/-- Text of a field goes into the field, and nothing else changes. -/
theorem run_textdata {r : Reader} (hopen : r.Open) {text : List Char}
    (h : ∀ c ∈ text, isTextdata c = true) :
    ∃ r', r.run text = some r' ∧ r'.Open ∧ r'.field = r.field ++ text ∧ r'.record = r.record ∧
      r'.records = r.records := by
  induction text generalizing r with
  | nil => exact ⟨r, rfl, hopen, by simp, rfl, rfl⟩
  | cons c cs ih =>
    obtain ⟨r', hrun, hopen', hfield, hrecord, hrecords⟩ := ih (r := r.push .plain c) (.inr rfl)
      fun d hd => h d (List.mem_cons_of_mem _ hd)
    refine ⟨r', ?_, hopen', ?_, hrecord, hrecords⟩
    · rw [run_cons, step_textdata hopen (h c List.mem_cons_self)]
      exact hrun
    · rw [hfield, push, List.append_assoc, List.singleton_append]

theorem step_comma {r : Reader} (hopen : r.Open) : r.step ',' = some r.endField := by
  rcases hopen with h | h <;> simp [step, h, unquoted, isTextdata, separate]

theorem run_crlf {r : Reader} (hopen : r.Open) : r.run crlf = some r.endRecord := by
  have hcr : r.step '\r' = some { r with mode := .cr } := by
    rcases hopen with h | h <;> simp [step, h, unquoted, isTextdata, separate]
  rw [crlf, run_cons, hcr]
  rfl

/-- Each field of a line ends at its comma, and the last one at the end of the line. -/
theorem run_line {fields : List (List Char)} (h : Plain fields) {r : Reader}
    (hstart : r.mode = .start) (hfield : r.field = []) :
    r.run (line fields ++ crlf) = some (atRecord (r.records ++ [r.record ++ fields])) := by
  obtain ⟨hne, htext⟩ := h
  induction fields generalizing r with
  | nil => exact absurd rfl hne
  | cons field fields ih =>
    obtain ⟨r', hrun, hopen, hfield', hrecord, hrecords⟩ :=
      run_textdata (.inl hstart) (htext field List.mem_cons_self)
    rw [hfield, List.nil_append] at hfield'
    cases fields with
    | nil =>
      have hline : line [field] ++ crlf = field ++ crlf := by simp [line]
      rw [hline, run_append, hrun]
      refine (run_crlf hopen).trans ?_
      rw [endRecord, hfield', hrecord, hrecords]
    | cons next fields =>
      have hline : line (field :: next :: fields) ++ crlf =
          field ++ ',' :: (line (next :: fields) ++ crlf) := by
        simp [line]
      rw [hline, run_append, hrun]
      refine (run_cons _ _ _).trans ?_
      rw [step_comma hopen]
      refine (ih rfl rfl (by simp) fun f hf => htext f (List.mem_cons_of_mem _ hf)).trans ?_
      rw [endField, hfield', hrecord, hrecords, List.append_assoc, List.singleton_append]

end Reader

/-- **Plain records are read as they are.** -/
theorem read_eq_of_plain {records : List (List (List Char))}
    (h : ∀ record ∈ records, Plain record) :
    read (records.flatMap fun record => line record ++ crlf) = some records := by
  have hrun : ∀ before, (Reader.atRecord before).run
      (records.flatMap fun record => line record ++ crlf) =
        some (Reader.atRecord (before ++ records)) := by
    induction records with
    | nil => intro before; simp [Reader.run]
    | cons record records ih =>
      intro before
      rw [List.flatMap_cons, Reader.run_append,
        Reader.run_line (h record List.mem_cons_self) rfl rfl]
      refine (ih (fun r hr => h r (List.mem_cons_of_mem _ hr)) _).trans ?_
      simp [Reader.atRecord]
  rw [read, hrun]
  rfl

example : read ['a', ',', '\"', 'b', ',', '\"', '\"', '\"', '\r', '\n'] =
    some [[['a'], ['b', ',', '\"']]] := by decide

/-! ### Text is not shorter than what is read from it -/

namespace Reader

/-- What a step does. -/
inductive Step (r : Reader) (c : Char) : Reader → Prop
  | openQuote : r.mode = .start → Step r c { r with mode := .quoted }
  | closeQuote : r.mode = .quoted → Step r c { r with mode := .quote }
  | quotedChar : r.mode = .quoted ∨ r.mode = .quote → Step r c (r.push .quoted c)
  | textdata : r.Open → isTextdata c = true → Step r c (r.push .plain c)
  | comma : r.Open ∨ r.mode = .quote → Step r c r.endField
  | cr : r.Open ∨ r.mode = .quote → Step r c { r with mode := .cr }
  | lf : r.mode = .cr → Step r c r.endRecord

theorem step_of_separate {r r' : Reader} {c : Char} (hmode : r.Open ∨ r.mode = .quote)
    (h : r.separate c = some r') : Step r c r' := by
  unfold separate at h
  split_ifs at h
  · exact Option.some.inj h ▸ .comma hmode
  · exact Option.some.inj h ▸ .cr hmode

theorem step_of_unquoted {r r' : Reader} {c : Char} (hopen : r.Open)
    (h : r.unquoted c = some r') : Step r c r' := by
  unfold unquoted at h
  split_ifs at h with htext
  · exact Option.some.inj h ▸ .textdata hopen htext
  · exact step_of_separate (.inl hopen) h

theorem step_cases {r r' : Reader} {c : Char} (h : r.step c = some r') : Step r c r' := by
  unfold step at h
  cases hmode : r.mode with
  | start =>
    simp only [hmode] at h
    split_ifs at h
    · exact Option.some.inj h ▸ .openQuote hmode
    · exact step_of_unquoted (.inl hmode) h
  | plain =>
    simp only [hmode] at h
    exact step_of_unquoted (.inr hmode) h
  | quoted =>
    simp only [hmode] at h
    split_ifs at h
    · exact Option.some.inj h ▸ .closeQuote hmode
    · exact Option.some.inj h ▸ .quotedChar (.inl hmode)
  | quote =>
    simp only [hmode] at h
    split_ifs at h
    · exact Option.some.inj h ▸ .quotedChar (.inr hmode)
    · exact step_of_separate (.inr hmode) h
  | cr =>
    simp only [hmode] at h
    split_ifs at h
    exact Option.some.inj h ▸ .lf hmode

/-- The length of the text that was read, if it was plain. -/
def size (r : Reader) : ℕ :=
  Csv.size r.records + recordSize r.record + r.field.length + if r.mode = .cr then 1 else 0

/-- Nothing that was read was between quotes. -/
structure Clean (r : Reader) : Prop where
  mode : r.mode ≠ .quoted ∧ r.mode ≠ .quote
  field : ∀ c ∈ r.field, isTextdata c = true
  record : ∀ field ∈ r.record, ∀ c ∈ field, isTextdata c = true
  records : ∀ record ∈ r.records, Plain record

theorem recordSize_snoc (record : List (List Char)) (field : List Char) :
    recordSize (record ++ [field]) = recordSize record + (field.length + 1) := by
  simp [recordSize]

theorem Open.ne_cr {r : Reader} (h : r.Open ∨ r.mode = .quote) : r.mode ≠ .cr := by
  rcases h with (h | h) | h <;> simp [h]

theorem size_endRecord {r : Reader} (h : r.mode = .cr) : r.endRecord.size = r.size + 1 := by
  have hnil : recordSize [] = 0 := rfl
  have hmode : (atRecord (r.records ++ [r.record ++ [r.field]])).mode ≠ .cr := by simp [atRecord]
  rw [endRecord, size, size, if_pos h, if_neg hmode]
  simp only [atRecord, Csv.size, recordSize_snoc, hnil, List.map_append, List.map_cons,
    List.map_nil, List.sum_append, List.sum_cons, List.sum_nil, List.length_nil]
  omega

/-- Each character is in the size of what was read, but for the quotes around a field. -/
theorem size_of_step {r r' : Reader} {c : Char} (h : Step r c r') :
    r'.size = r.size + 1 ∨ r'.size = r.size := by
  cases h with
  | openQuote hmode => exact .inr (by simp [size, hmode])
  | closeQuote hmode => exact .inr (by simp [size, hmode])
  | quotedChar hmode =>
    left
    rcases hmode with h | h <;> simp [size, push, h, ← add_assoc]
  | textdata hopen =>
    left
    simp [size, push, Open.ne_cr (.inl hopen), ← add_assoc]
  | comma hmode =>
    left
    simp [size, endField, Open.ne_cr hmode, recordSize_snoc, ← add_assoc]
  | cr hmode =>
    left
    simp [size, Open.ne_cr hmode]
  | lf hmode => exact .inl (size_endRecord hmode)

theorem forall_mem_snoc {α : Type} {P : α → Prop} {xs : List α} {x : α} (h : ∀ y ∈ xs, P y)
    (hx : P x) : ∀ y ∈ xs ++ [x], P y := by
  simpa [or_imp, forall_and] using ⟨h, hx⟩

/-- Where no quote opens, everything stays plain. -/
theorem clean_of_step {r r' : Reader} {c : Char} (h : Step r c r') (hclean : r.Clean)
    (hsize : r'.size = r.size + 1) : r'.Clean := by
  obtain ⟨hmode, hfield, hrecord, hrecords⟩ := hclean
  cases h with
  | openQuote hstart => simp [size, hstart] at hsize
  | closeQuote hquoted => exact absurd hquoted hmode.1
  | quotedChar hquoted => exact absurd hquoted (not_or.2 hmode)
  | textdata _ hc =>
    exact ⟨by simp [push], forall_mem_snoc hfield hc, hrecord, hrecords⟩
  | comma =>
    exact ⟨by simp [endField], by simp [endField], forall_mem_snoc hrecord hfield, hrecords⟩
  | cr => exact ⟨by simp, hfield, hrecord, hrecords⟩
  | lf =>
    refine ⟨by simp [endRecord, atRecord], by simp [endRecord, atRecord],
      by simp [endRecord, atRecord], ?_⟩
    exact forall_mem_snoc hrecords ⟨by simp, forall_mem_snoc hrecord hfield⟩

/-- A run reads no more than the text, and the whole text only where nothing is quoted. -/
theorem size_run {text : List Char} {r r' : Reader} (h : r.run text = some r') :
    r'.size ≤ r.size + text.length ∧
      (r.Clean → r'.size = r.size + text.length → r'.Clean) := by
  induction text generalizing r with
  | nil =>
    obtain rfl := Option.some.inj h
    exact ⟨by simp, fun hclean _ => hclean⟩
  | cons c cs ih =>
    obtain ⟨r₁, hstep, hrun⟩ := run_cons_eq_some.1 h
    have hstep := step_cases hstep
    have hsize := size_of_step hstep
    obtain ⟨hle, hclean⟩ := ih hrun
    rw [List.length_cons]
    exact ⟨by omega, fun hr heq => hclean (clean_of_step hstep hr (by omega)) (by omega)⟩

theorem records_ne_nil_run {text : List Char} {r r' : Reader} (h : r.run text = some r')
    (hr : ∀ record ∈ r.records, record ≠ []) : ∀ record ∈ r'.records, record ≠ [] := by
  induction text generalizing r with
  | nil => exact Option.some.inj h ▸ hr
  | cons c cs ih =>
    obtain ⟨r₁, hstep, hrun⟩ := run_cons_eq_some.1 h
    refine ih hrun ?_
    cases step_cases hstep with
    | lf => exact forall_mem_snoc hr (by simp)
    | _ => exact hr

/-- After a line feed at the end of the text a record has ended. -/
theorem eq_atRecord_of_finish {r r' : Reader} {records : List (List (List Char))}
    (hstep : r.step '\n' = some r') (hfinish : r'.finish = some records) :
    r' = atRecord records := by
  cases hmode : r.mode with
  | cr =>
    simp only [step, hmode, if_true, Option.some.injEq] at hstep
    subst hstep
    simpa [finish, endRecord, atRecord] using hfinish
  | quoted =>
    -- a line feed between quotes leaves the quote open
    simp only [step, hmode] at hstep
    rw [if_neg (by decide), Option.some.injEq] at hstep
    subst hstep
    cases hfinish
  | start => simp [step, hmode, unquoted, isTextdata, separate] at hstep
  | plain => simp [step, hmode, unquoted, isTextdata, separate] at hstep
  | quote => simp [step, hmode, separate] at hstep

end Reader

/-- **Text that ends with a line feed is not shorter than what is read from it**, and as long only
if that is plain. -/
theorem size_le_of_read {text : List Char} {records : List (List (List Char))}
    (h : read (text ++ ['\n']) = some records) :
    (∀ record ∈ records, record ≠ []) ∧ size records ≤ text.length + 1 ∧
      (size records = text.length + 1 → ∀ record ∈ records, Plain record) := by
  rw [read, Option.bind_eq_bind, Option.bind_eq_some_iff] at h
  obtain ⟨r', hrun, hfinish⟩ := h
  have hlast : r' = Reader.atRecord records := by
    obtain ⟨r, -, hlast⟩ := Reader.run_append_eq_some.1 hrun
    obtain ⟨r₁, hstep, hnil⟩ := Reader.run_cons_eq_some.1 hlast
    obtain rfl := Option.some.inj hnil
    exact Reader.eq_atRecord_of_finish hstep hfinish
  subst hlast
  have hsize : (Reader.atRecord records).size = size records := by
    simp [Reader.size, Reader.atRecord, recordSize]
  have hempty : (Reader.atRecord []).size = 0 := by
    simp [Reader.size, Reader.atRecord, recordSize, size]
  obtain ⟨hle, hclean⟩ := Reader.size_run hrun
  rw [hsize, hempty, zero_add, List.length_append, List.length_singleton] at hle hclean
  refine ⟨Reader.records_ne_nil_run hrun (by simp [Reader.atRecord]), hle, fun heq => ?_⟩
  have hstart : (Reader.atRecord []).Clean :=
    ⟨by simp [Reader.atRecord], by simp [Reader.atRecord], by simp [Reader.atRecord],
      by simp [Reader.atRecord]⟩
  exact (hclean hstart heq).records

end Csv

end StormPiper
