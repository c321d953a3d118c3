import Mathlib

/-!
# CSV files as text

Python's `csv` module on characters, for dialects with minimal quoting, doubled quotes
and rows that end in `"\r\n"`.

- `rowText`, `writeRows`: the writer.
- `splitLines`: the lines of a text file opened with `newline=""`. They keep their ends,
  and a quoted field may span several of them.
- `processChar`, `readLines`: the state machine of the reader.
- `readText_writeRows`: reading what was written.
- `readText_truncated`: reading a file that was cut at any character. All rows before
  the cut are intact, and at most one more row is read, which ends early.
-/

namespace CanSentinel.CsvText

/-- The two special characters of a dialect. -/
structure Dialect where
  delimiter : Char
  quotechar : Char
  delimiter_ne_quotechar : delimiter ≠ quotechar
  delimiter_ne_newline : delimiter ≠ '\r' ∧ delimiter ≠ '\n'
  quotechar_ne_newline : quotechar ≠ '\r' ∧ quotechar ≠ '\n'

theorem comma_ne_quote : ',' ≠ '"' := by decide

theorem comma_ne_newline : ',' ≠ '\r' ∧ ',' ≠ '\n' := by decide

theorem quote_ne_newline : '"' ≠ '\r' ∧ '"' ≠ '\n' := by decide

/-- The `excel` dialect. -/
def excel : Dialect := ⟨',', '"', comma_ne_quote, comma_ne_newline, quote_ne_newline⟩

/-- A character that ends a line. -/
def IsNewline (c : Char) : Prop := c = '\r' ∨ c = '\n'

instance (c : Char) : Decidable (IsNewline c) := inferInstanceAs (Decidable (c = '\r' ∨ c = '\n'))

/-! ## Writing -/

variable (d : Dialect)

/-- A character that makes the writer quote the field. -/
def Special (c : Char) : Prop := c = d.delimiter ∨ c = d.quotechar ∨ IsNewline c

instance (c : Char) : Decidable (Special d c) :=
  inferInstanceAs (Decidable (c = d.delimiter ∨ c = d.quotechar ∨ IsNewline c))

/-- The inside of a quoted field: quotes are doubled. -/
def escape (cs : List Char) : List Char :=
  cs.flatMap fun c => if c = d.quotechar then [c, c] else [c]

/-- The text of a field. -/
def fieldText (field : String) : List Char :=
  if ∃ c ∈ field.toList, Special d c then
    d.quotechar :: (escape d field.toList ++ [d.quotechar])
  else field.toList

/-- The fields of a row with the delimiters between them. -/
def joinText : List String → List Char
  | [] => []
  | [field] => fieldText d field
  | field :: fields => fieldText d field ++ d.delimiter :: joinText fields

theorem joinText_nil : joinText d [] = [] := rfl

theorem joinText_singleton (field : String) : joinText d [field] = fieldText d field := rfl

theorem joinText_cons_cons (field next : String) (fields : List String) :
    joinText d (field :: next :: fields) =
      fieldText d field ++ d.delimiter :: joinText d (next :: fields) := rfl

/-- `writer.writerow(row)`: a single empty field is quoted, for else the row would be
read back as an empty one. -/
def rowText (row : List String) : List Char :=
  (if row = [""] then [d.quotechar, d.quotechar] else joinText d row) ++ ['\r', '\n']

/-- `writer.writerows(rows)`. -/
def writeRows (rows : List (List String)) : List Char := rows.flatMap (rowText d)

/-! ## Reading -/

/-- The lines of a text file opened with `newline=""`. -/
def splitLines : List Char → List (List Char)
  | [] => []
  | '\n' :: cs => ['\n'] :: splitLines cs
  | '\r' :: '\n' :: cs => ['\r', '\n'] :: splitLines cs
  | '\r' :: cs => ['\r'] :: splitLines cs
  | c :: cs =>
    match splitLines cs with
    | [] => [[c]]
    | line :: lines => (c :: line) :: lines

/-- `csv.Error`. -/
inductive CsvError where
  | fieldTooLong
  | newlineInUnquotedField
deriving DecidableEq

/-- The states of the reader. -/
inductive ReaderState where
  | startRecord
  | startField
  | inField
  | inQuotedField
  | quoteInQuotedField
  | eatCrnl
deriving DecidableEq

/-- The reader between two characters: the field and the row read so far. -/
structure Reader where
  state : ReaderState
  field : List Char
  fields : List String

namespace Reader

/-- `csv.field_size_limit()`. -/
def fieldSizeLimit : ℕ := 131072

/-- `parse_reset`. -/
def reset : Reader := ⟨.startRecord, [], []⟩

/-- `parse_save_field`. -/
def saveField (r : Reader) : Reader :=
  { r with field := [], fields := r.fields ++ [String.ofList r.field] }

/-- `parse_add_char`. -/
def addChar (r : Reader) (c : Char) : Except CsvError Reader :=
  if fieldSizeLimit ≤ r.field.length then .error .fieldTooLong
  else .ok { r with field := r.field ++ [c] }

/-- The end of a field at the end of a line; `none` is the mark after the last
character of a line. -/
def endLine (r : Reader) (c : Option Char) : Reader :=
  { r.saveField with state := if c = none then .startRecord else .eatCrnl }

/-- A character where a field is expected. -/
def startField (r : Reader) (c : Char) : Except CsvError Reader :=
  if IsNewline c then .ok (r.endLine (some c))
  else if c = d.quotechar then .ok { r with state := .inQuotedField }
  else if c = d.delimiter then .ok { r.saveField with state := .startField }
  else ({ r with state := .inField } : Reader).addChar c

/-- `parse_process_char`. -/
def processChar (r : Reader) (c : Option Char) : Except CsvError Reader :=
  match r.state, c with
  | .startRecord, none => .ok r
  | .startRecord, some c =>
    if IsNewline c then .ok { r with state := .eatCrnl } else r.startField d c
  | .startField, none => .ok (r.endLine none)
  | .startField, some c => r.startField d c
  | .inField, none => .ok (r.endLine none)
  | .inField, some c =>
    if IsNewline c then .ok (r.endLine (some c))
    else if c = d.delimiter then .ok { r.saveField with state := .startField }
    else r.addChar c
  | .inQuotedField, none => .ok r
  | .inQuotedField, some c =>
    if c = d.quotechar then .ok { r with state := .quoteInQuotedField } else r.addChar c
  | .quoteInQuotedField, none => .ok (r.endLine none)
  | .quoteInQuotedField, some c =>
    if c = d.quotechar then ({ r with state := .inQuotedField } : Reader).addChar c
    else if c = d.delimiter then .ok { r.saveField with state := .startField }
    else if IsNewline c then .ok (r.endLine (some c))
    else ({ r with state := .inField } : Reader).addChar c
  | .eatCrnl, none => .ok { r with state := .startRecord }
  | .eatCrnl, some c =>
    if IsNewline c then .ok r else .error .newlineInUnquotedField

/-- The characters of a line and the mark after them. -/
def processLine (r : Reader) (line : List Char) : Except CsvError Reader := do
  let r ← line.foldlM (fun r c => r.processChar d (some c)) r
  r.processChar d none

/-- The rows of the remaining lines, `Reader_iternext` until the input ends. -/
def readLines (r : Reader) : List (List Char) → Except CsvError (List (List String))
  | [] =>
    -- a quoted field that the end of the input cuts off is kept
    if r.field ≠ [] ∨ r.state = .inQuotedField then .ok [r.saveField.fields] else .ok []
  | line :: lines => do
    let r ← r.processLine d line
    if r.state = .startRecord then
      let rows ← readLines reset lines
      return r.fields :: rows
    else readLines r lines

end Reader

open Reader

/-- `list(csv.reader(f))` for a file `f` with the given text. -/
def readText (text : List Char) : Except CsvError (List (List String)) :=
  reset.readLines d (splitLines text)

/-! ## Reading character by character -/

/-- The rows of a text that starts at the start of a line. -/
def readFrom (r : Reader) (text : List Char) : Except CsvError (List (List String)) :=
  r.readLines d (splitLines text)

/-- The rows after the last character of a line. -/
def readEol (r : Reader) (rest : List Char) : Except CsvError (List (List String)) := do
  let r ← r.processChar d none
  if r.state = .startRecord then
    let rows ← readFrom d reset rest
    return r.fields :: rows
  else readFrom d r rest

/-- The rows of a text that starts within a line. -/
def readMid (r : Reader) (text : List Char) : Except CsvError (List (List String)) :=
  if text = [] then readEol d r [] else readFrom d r text

theorem splitLines_eq_nil_iff (cs : List Char) : splitLines cs = [] ↔ cs = [] := by
  constructor
  · intro h
    unfold splitLines at h
    split at h
    · rfl
    · cases h
    · cases h
    · cases h
    · split at h <;> cases h
  · rintro rfl
    rfl

theorem splitLines_cons {c : Char} (hc : ¬IsNewline c) (cs : List Char) :
    splitLines (c :: cs) =
      match splitLines cs with
      | [] => [[c]]
      | line :: lines => (c :: line) :: lines := by
  rw [splitLines]
  · rintro rfl
    exact hc (.inr rfl)
  · rintro _ rfl
    exact absurd (Or.inl rfl) hc
  · rintro rfl
    exact hc (.inl rfl)

theorem readMid_of_ne_nil (r : Reader) {text : List Char} (h : text ≠ []) :
    readMid d r text = readFrom d r text := if_neg h

/-- A line with its first character. -/
theorem readLines_cons_cons (r : Reader) (c : Char) (line : List Char)
    (lines : List (List Char)) :
    r.readLines d ((c :: line) :: lines) =
      r.processChar d (some c) >>= fun r => r.readLines d (line :: lines) := by
  rw [readLines, processLine, List.foldlM_cons, bind_assoc, bind_assoc]
  refine bind_congr fun r => ?_
  rw [readLines, processLine, bind_assoc]

/-- **A character within a line.** -/
theorem readFrom_cons (r : Reader) {c : Char} (hc : ¬IsNewline c) (rest : List Char) :
    readFrom d r (c :: rest) = r.processChar d (some c) >>= fun r => readMid d r rest := by
  rw [readFrom, splitLines_cons hc]
  cases hlines : splitLines rest with
  | nil =>
    obtain rfl := (splitLines_eq_nil_iff rest).mp hlines
    exact readLines_cons_cons d r c [] []
  | cons line lines =>
    have hne : rest ≠ [] := by
      rintro rfl
      cases hlines
    simp only [readMid_of_ne_nil d _ hne, readFrom, hlines]
    exact readLines_cons_cons d r c line lines

/-- The ends of a line. -/
theorem readFrom_lf (r : Reader) (rest : List Char) :
    readFrom d r ('\n' :: rest) =
      r.processChar d (some '\n') >>= fun r => readEol d r rest :=
  readLines_cons_cons d r '\n' [] (splitLines rest)

theorem readFrom_crlf (r : Reader) (rest : List Char) :
    readFrom d r ('\r' :: '\n' :: rest) =
      r.processChar d (some '\r') >>= fun r =>
        r.processChar d (some '\n') >>= fun r => readEol d r rest := by
  refine (readLines_cons_cons d r '\r' ['\n'] (splitLines rest)).trans ?_
  exact congrArg _ (funext fun r => readLines_cons_cons d r '\n' [] (splitLines rest))

theorem readFrom_cr (r : Reader) {rest : List Char} (h : ∀ cs, rest ≠ '\n' :: cs) :
    readFrom d r ('\r' :: rest) =
      r.processChar d (some '\r') >>= fun r => readEol d r rest := by
  rw [readFrom, splitLines]
  · exact readLines_cons_cons d r '\r' [] (splitLines rest)
  · exact h

/-! ## Reading a field -/

section Field

variable {d} {acc : List Char} {fields : List String}

theorem addChar_of_lt {state : ReaderState} (h : acc.length < fieldSizeLimit) (c : Char) :
    Reader.addChar ⟨state, acc, fields⟩ c = .ok ⟨state, acc ++ [c], fields⟩ :=
  if_neg (by simpa using h)

theorem quotechar_not_isNewline (d : Dialect) : ¬IsNewline d.quotechar :=
  not_or.mpr d.quotechar_ne_newline

theorem delimiter_not_isNewline (d : Dialect) : ¬IsNewline d.delimiter :=
  not_or.mpr d.delimiter_ne_newline

/-- Within quotes the end of a line means nothing. -/
theorem readEol_inQuotedField (rest : List Char) :
    readEol d ⟨.inQuotedField, acc, fields⟩ rest = readFrom d ⟨.inQuotedField, acc, fields⟩ rest :=
  rfl

theorem readMid_inQuotedField (rest : List Char) :
    readMid d ⟨.inQuotedField, acc, fields⟩ rest =
      readFrom d ⟨.inQuotedField, acc, fields⟩ rest := by
  by_cases h : rest = []
  · subst h
    exact readEol_inQuotedField []
  · exact readMid_of_ne_nil d _ h

theorem processChar_inQuotedField {c : Char} (hc : c ≠ d.quotechar) :
    Reader.processChar d ⟨.inQuotedField, acc, fields⟩ (some c) =
      Reader.addChar ⟨.inQuotedField, acc, fields⟩ c := if_neg hc

/-- **A character within quotes**, newlines included. -/
theorem readFrom_inQuotedField {c : Char} (hc : c ≠ d.quotechar)
    (hroom : acc.length < fieldSizeLimit) (rest : List Char) :
    readFrom d ⟨.inQuotedField, acc, fields⟩ (c :: rest) =
      readFrom d ⟨.inQuotedField, acc ++ [c], fields⟩ rest := by
  have hadd := (@processChar_inQuotedField d acc fields c hc).trans (addChar_of_lt hroom c)
  by_cases hnewline : IsNewline c
  · rcases hnewline with rfl | rfl
    · by_cases hlf : ∃ cs, rest = '\n' :: cs
      · obtain ⟨cs, rfl⟩ := hlf
        rw [readFrom_crlf, hadd, readFrom_lf]
        rfl
      · rw [readFrom_cr d _ fun cs h => hlf ⟨cs, h⟩, hadd]
        exact readEol_inQuotedField rest
    · rw [readFrom_lf, hadd]
      exact readEol_inQuotedField rest
  · rw [readFrom_cons d _ hnewline, hadd]
    exact readMid_inQuotedField rest

/-- A doubled quote within quotes. -/
theorem readFrom_doubledQuote (hroom : acc.length < fieldSizeLimit) (rest : List Char) :
    readFrom d ⟨.inQuotedField, acc, fields⟩ (d.quotechar :: d.quotechar :: rest) =
      readFrom d ⟨.inQuotedField, acc ++ [d.quotechar], fields⟩ rest := by
  have hfirst : Reader.processChar d ⟨.inQuotedField, acc, fields⟩ (some d.quotechar) =
      .ok ⟨.quoteInQuotedField, acc, fields⟩ := if_pos rfl
  have hsecond : Reader.processChar d ⟨.quoteInQuotedField, acc, fields⟩ (some d.quotechar) =
      .ok ⟨.inQuotedField, acc ++ [d.quotechar], fields⟩ :=
    (if_pos rfl).trans (addChar_of_lt hroom _)
  rw [readFrom_cons d _ (quotechar_not_isNewline d), hfirst]
  show readMid d _ (d.quotechar :: rest) = _
  rw [readMid_of_ne_nil d _ (List.cons_ne_nil _ _), readFrom_cons d _ (quotechar_not_isNewline d),
    hsecond]
  exact readMid_inQuotedField rest

/-- The inside of a quoted field. -/
theorem readFrom_escape {cs : List Char} (hroom : acc.length + cs.length ≤ fieldSizeLimit)
    (rest : List Char) :
    readFrom d ⟨.inQuotedField, acc, fields⟩ (escape d cs ++ rest) =
      readFrom d ⟨.inQuotedField, acc ++ cs, fields⟩ rest := by
  induction cs generalizing acc with
  | nil => rw [List.append_nil]; rfl
  | cons c cs ih =>
    rw [List.length_cons] at hroom
    have hlt : acc.length < fieldSizeLimit := by omega
    have hcs : (acc ++ [c]).length + cs.length ≤ fieldSizeLimit := by
      rw [List.length_append, List.length_singleton]
      omega
    rw [escape, List.flatMap_cons, ← escape, List.append_assoc]
    by_cases hc : c = d.quotechar
    · subst hc
      rw [if_pos rfl, List.cons_append, List.cons_append, List.nil_append,
        readFrom_doubledQuote hlt, ih hcs, List.append_assoc, List.singleton_append]
    · rw [if_neg hc, List.singleton_append, readFrom_inQuotedField hc hlt, ih hcs,
        List.append_assoc, List.singleton_append]

theorem readMid_inField_cons {c : Char} (hc : ¬Special d c) (hroom : acc.length < fieldSizeLimit)
    (rest : List Char) :
    readMid d ⟨.inField, acc, fields⟩ (c :: rest) =
      readMid d ⟨.inField, acc ++ [c], fields⟩ rest := by
  simp only [Special, not_or] at hc
  have hadd : Reader.processChar d ⟨.inField, acc, fields⟩ (some c) =
      .ok ⟨.inField, acc ++ [c], fields⟩ :=
    (if_neg hc.2.2).trans ((if_neg hc.1).trans (addChar_of_lt hroom c))
  rw [readMid_of_ne_nil d _ (List.cons_ne_nil _ _), readFrom_cons d _ hc.2.2, hadd]
  rfl

/-- The rest of an unquoted field. -/
theorem readMid_inField {cs : List Char} (hcs : ∀ c ∈ cs, ¬Special d c)
    (hroom : acc.length + cs.length ≤ fieldSizeLimit) (rest : List Char) :
    readMid d ⟨.inField, acc, fields⟩ (cs ++ rest) =
      readMid d ⟨.inField, acc ++ cs, fields⟩ rest := by
  induction cs generalizing acc with
  | nil => rw [List.append_nil]; rfl
  | cons c cs ih =>
    rw [List.length_cons] at hroom
    have hlen : (acc ++ [c]).length + cs.length ≤ fieldSizeLimit := by
      rw [List.length_append, List.length_singleton]
      omega
    rw [List.forall_mem_cons] at hcs
    rw [List.cons_append, readMid_inField_cons hcs.1 (by omega), ih hcs.2 hlen, List.append_assoc,
      List.singleton_append]

/-- A quote where a field is expected. -/
theorem readMid_openQuote (rest : List Char) :
    readMid d ⟨.startField, [], fields⟩ (d.quotechar :: rest) =
      readFrom d ⟨.inQuotedField, [], fields⟩ rest := by
  have hopen : Reader.processChar d ⟨.startField, [], fields⟩ (some d.quotechar) =
      .ok ⟨.inQuotedField, [], fields⟩ :=
    (if_neg (quotechar_not_isNewline d)).trans (if_pos rfl)
  rw [readMid_of_ne_nil d _ (List.cons_ne_nil _ _), readFrom_cons d _ (quotechar_not_isNewline d),
    hopen]
  exact readMid_inQuotedField rest

/-- An unquoted field. -/
theorem readMid_startField {c : Char} {cs : List Char} (hcs : ∀ x ∈ c :: cs, ¬Special d x)
    (hroom : (c :: cs).length ≤ fieldSizeLimit) (rest : List Char) :
    readMid d ⟨.startField, [], fields⟩ (c :: cs ++ rest) =
      readMid d ⟨.inField, c :: cs, fields⟩ rest := by
  rw [List.forall_mem_cons] at hcs
  have hc := hcs.1
  simp only [Special, not_or] at hc
  have hadd : Reader.processChar d ⟨.startField, [], fields⟩ (some c) =
      .ok ⟨.inField, [] ++ [c], fields⟩ :=
    (if_neg hc.2.2).trans ((if_neg hc.2.1).trans ((if_neg hc.1).trans
      (addChar_of_lt (by simp [fieldSizeLimit]) c)))
  rw [List.length_cons] at hroom
  rw [List.cons_append, readMid_of_ne_nil d _ (List.cons_ne_nil _ _), readFrom_cons d _ hc.2.2,
    hadd]
  show readMid d _ _ = _
  rw [readMid_inField hcs.2 (by simpa using by omega)]
  rfl

/-- The states in which a field can end. -/
inductive EndsField : ReaderState → Prop
  | startField : EndsField .startField
  | inField : EndsField .inField
  | quoteInQuotedField : EndsField .quoteInQuotedField

variable {state : ReaderState}

theorem readMid_delimiter (h : EndsField state) (rest : List Char) :
    readMid d ⟨state, acc, fields⟩ (d.delimiter :: rest) =
      readMid d ⟨.startField, [], fields ++ [String.ofList acc]⟩ rest := by
  have hnewline := delimiter_not_isNewline d
  have hsave : Reader.processChar d ⟨state, acc, fields⟩ (some d.delimiter) =
      .ok ⟨.startField, [], fields ++ [String.ofList acc]⟩ := by
    cases h with
    | startField =>
      exact (if_neg hnewline).trans ((if_neg d.delimiter_ne_quotechar).trans (if_pos rfl))
    | inField => exact (if_neg hnewline).trans (if_pos rfl)
    | quoteInQuotedField => exact (if_neg d.delimiter_ne_quotechar).trans (if_pos rfl)
  rw [readMid_of_ne_nil d _ (List.cons_ne_nil _ _), readFrom_cons d _ hnewline, hsave]
  rfl

theorem processChar_cr (h : EndsField state) :
    Reader.processChar d ⟨state, acc, fields⟩ (some '\r') =
      .ok ⟨.eatCrnl, [], fields ++ [String.ofList acc]⟩ := by
  cases h with
  | startField => rfl
  | inField => rfl
  | quoteInQuotedField =>
    exact (if_neg d.quotechar_ne_newline.1.symm).trans
      ((if_neg d.delimiter_ne_newline.1.symm).trans (if_pos (.inl rfl)))

/-- The end of a row. -/
theorem readMid_crlf (h : EndsField state) (rest : List Char) :
    readMid d ⟨state, acc, fields⟩ ('\r' :: '\n' :: rest) =
      (readFrom d reset rest).map ((fields ++ [String.ofList acc]) :: ·) := by
  rw [readMid_of_ne_nil d _ (List.cons_ne_nil _ _), readFrom_crlf, processChar_cr h]
  show (readFrom d reset rest >>= fun rows => _) = _
  cases readFrom d reset rest <;> rfl

/-- A text that ends after a field. -/
theorem readMid_nil (h : EndsField state) :
    readMid d ⟨state, acc, fields⟩ [] = .ok [fields ++ [String.ofList acc]] := by
  cases h <;> rfl

/-- A text that ends between the two characters of a row's end. -/
theorem readMid_cr (h : EndsField state) :
    readMid d ⟨state, acc, fields⟩ ['\r'] = .ok [fields ++ [String.ofList acc]] := by
  rw [readMid_of_ne_nil d _ (List.cons_ne_nil _ _), readFrom_cr d _ (by simp), processChar_cr h]
  rfl

/-- **A field**: its text leaves it in the reader, in a state in which it can end. -/
theorem readMid_fieldText {field : String} (hroom : field.length ≤ fieldSizeLimit) :
    ∃ state, EndsField state ∧ ∀ rest,
      readMid d ⟨.startField, [], fields⟩ (fieldText d field ++ rest) =
        readMid d ⟨state, field.toList, fields⟩ rest := by
  rw [fieldText]
  by_cases hspecial : ∃ c ∈ field.toList, Special d c
  · refine ⟨.quoteInQuotedField, .quoteInQuotedField, fun rest => ?_⟩
    have hclose : Reader.processChar d ⟨.inQuotedField, field.toList, fields⟩ (some d.quotechar) =
        .ok ⟨.quoteInQuotedField, field.toList, fields⟩ := if_pos rfl
    have hlength : ([] : List Char).length + field.toList.length ≤ fieldSizeLimit := by
      rwa [List.length_nil, Nat.zero_add, String.length_toList]
    rw [if_pos hspecial, List.cons_append, readMid_openQuote, List.append_assoc,
      readFrom_escape hlength, List.singleton_append,
      readFrom_cons d _ (quotechar_not_isNewline d), List.nil_append, hclose]
    rfl
  · rw [if_neg hspecial]
    have hplain : ∀ c ∈ field.toList, ¬Special d c := fun c hc h => hspecial ⟨c, hc, h⟩
    rw [← String.length_toList] at hroom
    cases hcs : field.toList with
    | nil => exact ⟨.startField, .startField, fun rest => rfl⟩
    | cons c cs =>
      rw [hcs] at hplain hroom
      exact ⟨.inField, .inField, readMid_startField hplain hroom⟩

end Field

/-! ## Reading what was written -/

/-- Rows whose fields the reader accepts. -/
def Fits (rows : List (List String)) : Prop :=
  ∀ row ∈ rows, ∀ field ∈ row, field.length ≤ fieldSizeLimit

section RoundTrip

variable {d} {fields : List String}

/-- The fields of a row, with the end of the row. -/
theorem readMid_joinText {row : List String} (hne : row ≠ [])
    (hfits : ∀ field ∈ row, field.length ≤ fieldSizeLimit) (rest : List Char) :
    readMid d ⟨.startField, [], fields⟩ (joinText d row ++ '\r' :: '\n' :: rest) =
      (readFrom d reset rest).map ((fields ++ row) :: ·) := by
  induction row generalizing fields with
  | nil => exact absurd rfl hne
  | cons field row ih =>
    rw [List.forall_mem_cons] at hfits
    obtain ⟨state, hends, hread⟩ := @readMid_fieldText d fields field hfits.1
    cases row with
    | nil =>
      rw [joinText_singleton, hread, readMid_crlf hends, String.ofList_toList]
    | cons next row =>
      rw [joinText_cons_cons, List.append_assoc, List.cons_append, hread, readMid_delimiter hends,
        ih (List.cons_ne_nil _ _) hfits.2, String.ofList_toList, List.append_assoc,
        List.singleton_append]

/-- The first character of a row starts a field. -/
theorem readFrom_reset {c : Char} (hc : ¬IsNewline c) (rest : List Char) :
    readFrom d reset (c :: rest) = readMid d ⟨.startField, [], []⟩ (c :: rest) := by
  rw [readMid_of_ne_nil d _ (List.cons_ne_nil _ _), readFrom_cons d _ hc, readFrom_cons d _ hc]
  congr 1
  exact if_neg hc

theorem fieldText_empty (d : Dialect) : fieldText d "" = [] := by
  simp [fieldText]

theorem fieldText_head {field : String} (h : field ≠ "") :
    ∃ c cs, fieldText d field = c :: cs ∧ ¬IsNewline c := by
  rw [fieldText]
  by_cases hspecial : ∃ c ∈ field.toList, Special d c
  · rw [if_pos hspecial]
    exact ⟨_, _, rfl, quotechar_not_isNewline d⟩
  · rw [if_neg hspecial]
    cases hcs : field.toList with
    | nil => exact absurd (String.toList_eq_nil_iff.mp hcs) h
    | cons c cs =>
      refine ⟨c, cs, rfl, fun hnewline => hspecial ⟨c, ?_, .inr (.inr hnewline)⟩⟩
      rw [hcs]
      exact List.mem_cons_self

theorem joinText_head {row : List String} (hne : row ≠ []) (hempty : row ≠ [""]) :
    ∃ c cs, joinText d row = c :: cs ∧ ¬IsNewline c := by
  match row with
  | [] => exact absurd rfl hne
  | [field] => exact fieldText_head fun h => hempty (by rw [h])
  | field :: next :: row =>
    rw [joinText_cons_cons]
    by_cases h : field = ""
    · rw [h, fieldText_empty, List.nil_append]
      exact ⟨_, _, rfl, delimiter_not_isNewline d⟩
    · obtain ⟨c, cs, hcs, hc⟩ := fieldText_head (d := d) h
      exact ⟨c, _, by rw [hcs]; rfl, hc⟩

/-- **A row.** -/
theorem readFrom_rowText {row : List String}
    (hfits : ∀ field ∈ row, field.length ≤ fieldSizeLimit) (rest : List Char) :
    readFrom d reset (rowText d row ++ rest) = (readFrom d reset rest).map (row :: ·) := by
  rw [rowText, List.append_assoc]
  by_cases hempty : row = [""]
  · have hclose : Reader.processChar d ⟨.inQuotedField, [], []⟩ (some d.quotechar) =
        .ok ⟨.quoteInQuotedField, [], []⟩ := if_pos rfl
    rw [if_pos hempty, List.cons_append, readFrom_reset (quotechar_not_isNewline d),
      readMid_openQuote, List.singleton_append, readFrom_cons d _ (quotechar_not_isNewline d),
      hclose]
    show readMid d ⟨.quoteInQuotedField, [], []⟩ ('\r' :: '\n' :: rest) = _
    rw [readMid_crlf .quoteInQuotedField, String.ofList_nil, List.nil_append, hempty]
  · rw [if_neg hempty]
    by_cases hne : row = []
    · subst hne
      show readFrom d reset ('\r' :: '\n' :: rest) = _
      rw [readFrom_crlf]
      show (readFrom d reset rest >>= fun rows => _) = _
      cases readFrom d reset rest <;> rfl
    · obtain ⟨c, cs, hcs, hc⟩ := joinText_head (d := d) hne hempty
      have hread := @readMid_joinText d [] _ hne hfits rest
      rw [hcs] at hread
      rw [hcs, List.cons_append, readFrom_reset hc]
      exact hread

/-- **Reading what was written**, before any other text. -/
theorem readFrom_writeRows {rows : List (List String)} (hfits : Fits rows) (rest : List Char) :
    readFrom d reset (writeRows d rows ++ rest) = (readFrom d reset rest).map (rows ++ ·) := by
  induction rows with
  | nil =>
    show readFrom d reset rest = _
    cases readFrom d reset rest <;> rfl
  | cons row rows ih =>
    rw [Fits, List.forall_mem_cons] at hfits
    rw [writeRows, List.flatMap_cons, ← writeRows, List.append_assoc, readFrom_rowText hfits.1,
      ih hfits.2]
    cases readFrom d reset rest <;> rfl

/-- **Round trip.** -/
theorem readText_writeRows {rows : List (List String)} (hfits : Fits rows) :
    readText d (writeRows d rows) = .ok rows := by
  have hread := readFrom_writeRows (d := d) hfits []
  rw [List.append_nil] at hread
  refine hread.trans ?_
  show Except.ok (rows ++ []) = _
  rw [List.append_nil]

end RoundTrip

/-! ## Reading a file that was cut off -/

/-- What is read of a row that is cut off: the fields before the cut and the beginning
of the field it falls into. -/
inductive CutRow : List String → List String → Prop
  | empty : CutRow [] []
  | cut {before after : List String} {field s : String} (h : s.toList <+: field.toList) :
      CutRow (before ++ field :: after) (before ++ [s])

theorem CutRow.cons {row cut : List String} (h : CutRow row cut) (hne : row ≠ [])
    (field : String) : CutRow (field :: row) (field :: cut) := by
  cases h with
  | empty => exact absurd rfl hne
  | cut hs => exact @CutRow.cut (field :: _) _ _ _ hs

/-- A prefix of two texts ends in the first or in the second one. -/
theorem prefix_append_cases {α : Type*} {cs a b : List α} (h : cs <+: a ++ b) :
    cs <+: a ∨ ∃ cs', cs = a ++ cs' ∧ cs' <+: b := by
  rcases List.prefix_or_prefix_of_prefix h (List.prefix_append a b) with hcs | ⟨cs', rfl⟩
  · exact .inl hcs
  · exact .inr ⟨cs', rfl, (List.prefix_append_right_inj a).mp h⟩

section Cut

variable {d} {fields : List String}

theorem readMid_closingQuote {acc : List Char} (rest : List Char) :
    readFrom d ⟨.inQuotedField, acc, fields⟩ (d.quotechar :: rest) =
      readMid d ⟨.quoteInQuotedField, acc, fields⟩ rest := by
  have hclose : Reader.processChar d ⟨.inQuotedField, acc, fields⟩ (some d.quotechar) =
      .ok ⟨.quoteInQuotedField, acc, fields⟩ := if_pos rfl
  rw [readFrom_cons d _ (quotechar_not_isNewline d), hclose]
  rfl

/-- A cut within quotes, or after the first of two quotes. -/
theorem readFrom_cut_escape {cs text acc : List Char} (htext : text <+: escape d cs)
    (hroom : acc.length + cs.length ≤ fieldSizeLimit) :
    ∃ s, s <+: cs ∧ readFrom d ⟨.inQuotedField, acc, fields⟩ text =
      .ok [fields ++ [String.ofList (acc ++ s)]] := by
  induction cs generalizing text acc with
  | nil =>
    obtain rfl := List.prefix_nil.mp htext
    refine ⟨[], List.nil_prefix, ?_⟩
    rw [List.append_nil]
    exact if_pos (.inr rfl)
  | cons c cs ih =>
    have hcut : readFrom d ⟨.inQuotedField, acc, fields⟩ [] =
        .ok [fields ++ [String.ofList acc]] := if_pos (.inr rfl)
    rw [List.length_cons] at hroom
    have hlt : acc.length < fieldSizeLimit := by omega
    have hcs : (acc ++ [c]).length + cs.length ≤ fieldSizeLimit := by
      rw [List.length_append, List.length_singleton]
      omega
    rw [escape, List.flatMap_cons, ← escape] at htext
    by_cases hc : c = d.quotechar
    · rw [if_pos hc, hc, List.cons_append, List.singleton_append] at htext
      rcases List.prefix_cons_iff.mp htext with rfl | ⟨tail, rfl, htail⟩
      · exact ⟨[], List.nil_prefix, by rw [hcut, List.append_nil]⟩
      rcases List.prefix_cons_iff.mp htail with rfl | ⟨rest, rfl, hrest⟩
      · refine ⟨[], List.nil_prefix, ?_⟩
        rw [readMid_closingQuote, readMid_nil .quoteInQuotedField, List.append_nil]
      · obtain ⟨s, hs, hread⟩ := ih hrest hcs
        refine ⟨c :: s, List.cons_prefix_cons.mpr ⟨rfl, hs⟩, ?_⟩
        rw [readFrom_doubledQuote hlt, ← hc, hread, List.append_assoc, List.singleton_append]
    · rw [if_neg hc, List.singleton_append] at htext
      rcases List.prefix_cons_iff.mp htext with rfl | ⟨tail, rfl, htail⟩
      · exact ⟨[], List.nil_prefix, by rw [hcut, List.append_nil]⟩
      · obtain ⟨s, hs, hread⟩ := ih htail hcs
        refine ⟨c :: s, List.cons_prefix_cons.mpr ⟨rfl, hs⟩, ?_⟩
        rw [readFrom_inQuotedField hc hlt, hread, List.append_assoc, List.singleton_append]

/-- A cut within a field. -/
theorem readMid_cut_fieldText {field : String} {text : List Char}
    (htext : text <+: fieldText d field) (hroom : field.length ≤ fieldSizeLimit) :
    ∃ s : String, s.toList <+: field.toList ∧
      readMid d ⟨.startField, [], fields⟩ text = .ok [fields ++ [s]] := by
  rw [← String.length_toList] at hroom
  rw [fieldText] at htext
  by_cases hspecial : ∃ c ∈ field.toList, Special d c
  · rw [if_pos hspecial] at htext
    rcases List.prefix_cons_iff.mp htext with rfl | ⟨tail, rfl, htail⟩
    · exact ⟨"", List.nil_prefix, readMid_nil .startField⟩
    have hlength : ([] : List Char).length + field.toList.length ≤ fieldSizeLimit := by
      rwa [List.length_nil, Nat.zero_add]
    rw [readMid_openQuote]
    rcases prefix_append_cases htail with hinside | ⟨close, rfl, hclose⟩
    · obtain ⟨s, hs, hread⟩ := @readFrom_cut_escape d fields _ _ _ hinside hlength
      exact ⟨String.ofList s, by rwa [String.toList_ofList], hread⟩
    · refine ⟨field, List.prefix_refl _, ?_⟩
      rw [readFrom_escape hlength, List.nil_append]
      rcases List.prefix_cons_iff.mp hclose with rfl | ⟨rest, rfl, hrest⟩
      · refine (if_pos (.inr rfl)).trans ?_
        rw [saveField, String.ofList_toList]
      · obtain rfl := List.prefix_nil.mp hrest
        rw [readMid_closingQuote, readMid_nil .quoteInQuotedField, String.ofList_toList]
  · rw [if_neg hspecial] at htext
    refine ⟨String.ofList text, by rwa [String.toList_ofList], ?_⟩
    have hplain : ∀ c ∈ text, ¬Special d c :=
      fun c hc h => hspecial ⟨c, htext.subset hc, h⟩
    have hlength := htext.length_le.trans hroom
    cases text with
    | nil => exact readMid_nil .startField
    | cons c cs =>
      have hread := @readMid_startField d fields _ _ hplain hlength []
      rw [List.append_nil] at hread
      rw [hread, readMid_nil .inField]

/-- A cut within the fields of a row, or within its end. -/
theorem readMid_cut_joinText {row : List String} {text : List Char} (hne : row ≠ [])
    (htext : text <+: joinText d row ++ ['\r'])
    (hfits : ∀ field ∈ row, field.length ≤ fieldSizeLimit) :
    ∃ cut, CutRow row cut ∧ readMid d ⟨.startField, [], fields⟩ text = .ok [fields ++ cut] := by
  induction row generalizing text fields with
  | nil => exact absurd rfl hne
  | cons field row ih =>
    rw [List.forall_mem_cons] at hfits
    obtain ⟨state, hends, hread⟩ := @readMid_fieldText d fields field hfits.1
    have hfield : ∀ {text}, text <+: fieldText d field → ∃ cut, CutRow (field :: row) cut ∧
        readMid d ⟨.startField, [], fields⟩ text = .ok [fields ++ cut] := by
      intro text htext
      obtain ⟨s, hs, hcut⟩ := @readMid_cut_fieldText d fields _ _ htext hfits.1
      exact ⟨[s], @CutRow.cut [] _ _ _ hs, hcut⟩
    cases row with
    | nil =>
      rw [joinText_singleton] at htext
      rcases prefix_append_cases htext with hcut | ⟨tail, htail, hend⟩
      · exact hfield hcut
      rw [htail]
      rcases List.prefix_cons_iff.mp hend with rfl | ⟨rest, rfl, hrest⟩
      · rw [List.append_nil]
        exact hfield (List.prefix_refl _)
      · obtain rfl := List.prefix_nil.mp hrest
        refine ⟨[field], @CutRow.cut [] _ _ _ (List.prefix_refl _), ?_⟩
        rw [hread, readMid_cr hends, String.ofList_toList]
    | cons next row =>
      rw [joinText_cons_cons, List.append_assoc, List.cons_append] at htext
      rcases prefix_append_cases htext with hcut | ⟨tail, htail, hend⟩
      · exact hfield hcut
      rw [htail]
      rcases List.prefix_cons_iff.mp hend with rfl | ⟨rest, rfl, hrest⟩
      · rw [List.append_nil]
        exact hfield (List.prefix_refl _)
      · obtain ⟨cut, hcut, hrow⟩ :=
          @ih (fields ++ [field]) rest (List.cons_ne_nil _ _) hrest hfits.2
        refine ⟨field :: cut, ?_, ?_⟩
        · exact hcut.cons (List.cons_ne_nil _ _) field
        · rw [hread, readMid_delimiter hends, String.ofList_toList, hrow, List.append_assoc,
            List.singleton_append]

/-- A cut within a row. -/
theorem readFrom_cut_rowText {row : List String} {text : List Char} (hne : text ≠ [])
    (htext : text <+: rowText d row) (hcut : text ≠ rowText d row)
    (hfits : ∀ field ∈ row, field.length ≤ fieldSizeLimit) :
    ∃ cut, CutRow row cut ∧ readFrom d reset text = .ok [cut] := by
  obtain ⟨before, hrow⟩ : ∃ before, rowText d row = before ++ ['\r'] ++ ['\n'] :=
    ⟨_, (List.append_assoc _ ['\r'] ['\n']).symm⟩
  have hbefore : (if row = [""] then [d.quotechar, d.quotechar] else joinText d row) = before := by
    rw [rowText, List.append_assoc] at hrow
    exact List.append_cancel_right hrow
  -- the last character of the row is not in the text
  have hpre : text <+: before ++ ['\r'] := by
    rw [hrow] at htext hcut
    exact (List.prefix_concat_iff.mp htext).resolve_left hcut
  rw [← hbefore] at hpre
  obtain ⟨c, cs, rfl⟩ := List.exists_cons_of_ne_nil hne
  by_cases hempty : row = [""]
  · subst hempty
    refine ⟨[""], @CutRow.cut [] _ _ _ (List.prefix_refl _), ?_⟩
    rw [if_pos rfl, List.cons_append, List.cons_append, List.nil_append,
      List.cons_prefix_cons] at hpre
    obtain ⟨rfl, hpre⟩ := hpre
    rw [readFrom_reset (quotechar_not_isNewline d), readMid_openQuote]
    rcases List.prefix_cons_iff.mp hpre with rfl | ⟨tail, rfl, htail⟩
    · rfl
    rw [readMid_closingQuote]
    rcases List.prefix_cons_iff.mp htail with rfl | ⟨rest, rfl, hrest⟩
    · exact readMid_nil .quoteInQuotedField
    · obtain rfl := List.prefix_nil.mp hrest
      exact readMid_cr .quoteInQuotedField
  · rw [if_neg hempty] at hpre
    by_cases hnil : row = []
    · rw [hnil] at hpre ⊢
      have htext : c = '\r' ∧ cs = [] := by
        rwa [joinText_nil, List.nil_append, List.cons_prefix_cons, List.prefix_nil] at hpre
      rw [htext.1, htext.2]
      exact ⟨[], .empty, rfl⟩
    · obtain ⟨head, tail, hjoin, hhead⟩ := joinText_head (d := d) hnil hempty
      obtain ⟨cut, hcutRow, hread⟩ :=
        @readMid_cut_joinText d [] _ _ hnil hpre hfits
      rw [hjoin, List.cons_append, List.cons_prefix_cons] at hpre
      rw [← hpre.1] at hhead
      exact ⟨cut, hcutRow, (readFrom_reset hhead cs).trans hread⟩

/-- **Truncation.** Of a file that was cut at any character, the reader returns all rows
that end before the cut, and if the cut falls into a row, one row that is a cut of it. -/
theorem readText_truncated {rows : List (List String)} {text : List Char}
    (htext : text <+: writeRows d rows) (hfits : Fits rows) :
    ∃ before after, rows = before ++ after ∧
      ((text = writeRows d before ∧ readText d text = .ok before) ∨
        ∃ row cut, after.head? = some row ∧ CutRow row cut ∧ writeRows d before <+: text ∧
          text <+: writeRows d (before ++ [row]) ∧ readText d text = .ok (before ++ [cut])) := by
  induction rows generalizing text with
  | nil =>
    obtain rfl := List.prefix_nil.mp htext
    exact ⟨[], [], rfl, .inl ⟨rfl, rfl⟩⟩
  | cons row rows ih =>
    rw [Fits, List.forall_mem_cons] at hfits
    rw [writeRows, List.flatMap_cons, ← writeRows] at htext
    rcases prefix_append_cases htext with hfirst | ⟨tail, rfl, htail⟩
    · by_cases hnil : text = []
      · subst hnil
        exact ⟨[], row :: rows, rfl, .inl ⟨rfl, rfl⟩⟩
      by_cases hall : text = rowText d row
      · have hwrite : text = writeRows d [row] := by
          rw [hall, writeRows, List.flatMap_singleton]
        refine ⟨[row], rows, rfl, .inl ⟨hwrite, ?_⟩⟩
        rw [hwrite]
        exact readText_writeRows (by simpa [Fits] using hfits.1)
      · obtain ⟨cut, hcut, hread⟩ := readFrom_cut_rowText hnil hfirst hall hfits.1
        refine ⟨[], row :: rows, rfl, .inr ⟨row, cut, rfl, hcut, List.nil_prefix, ?_, hread⟩⟩
        rwa [List.nil_append, writeRows, List.flatMap_singleton]
    · have hread : ∀ rows', readText d tail = .ok rows' →
          readText d (rowText d row ++ tail) = .ok (row :: rows') := by
        intro rows' hrows
        refine (readFrom_rowText hfits.1 tail).trans ?_
        rw [readText, ← readFrom] at hrows
        rw [hrows]
        rfl
      have hwrite : ∀ rows', writeRows d (row :: rows') = rowText d row ++ writeRows d rows' :=
        fun rows' => List.flatMap_cons
      obtain ⟨before, after, rfl, ⟨rfl, hbefore⟩ | ⟨next, cut, hnext, hcut, hle, hlt, hbefore⟩⟩ :=
        ih htail hfits.2
      · exact ⟨row :: before, after, rfl, .inl ⟨(hwrite before).symm, hread _ hbefore⟩⟩
      · refine ⟨row :: before, after, rfl, .inr ⟨next, cut, hnext, hcut, ?_, ?_, hread _ hbefore⟩⟩
        · rw [hwrite]
          exact (List.prefix_append_right_inj _).mpr hle
        · rw [List.cons_append, hwrite]
          exact (List.prefix_append_right_inj _).mpr hlt

end Cut

end CanSentinel.CsvText
