import CanSentinel.Lib.Csv
import CanSentinel.Lib.Machine
import CanSentinel.Parser.Telemetry

/-!
# The CSV logger (`logger/csv_logger.py`)

`CSVTelemetryLogger` parses frames with a parser of its own, collects their rows
in a buffer and writes them when the buffer is full, on `flush` and on `close`.

- `WriteOutcome` is what the file system does to one flush; the written rows stay
  in the stream when it fails.
- `LoggerInv`: while nothing fails, the rows of the accepted frames are those in
  the file after the header, followed by the buffer.
- `close_file`: after `close` they are all in the file.
-/

namespace CanSentinel

variable {R : Type} [PyFloat R]

/-- `CSV_FIELDNAMES`. -/
def csvFieldnames : List String :=
  ["timestamp", "can_id", "can_id_hex", "ecu_name", "dlc", "payload_hex", "delta_t",
    "global_delta_t", "entropy", "byte_0", "byte_1", "byte_2", "byte_3", "byte_4", "byte_5",
    "byte_6", "byte_7", "decoded_summary", "label"]

/-- A flat row: a dict in insertion order. -/
abbrev Row := List (String × Cell)

/-- `row[key] = value`. -/
def Row.set (row : Row) (key : String) (value : Cell) : Row :=
  if (row.lookup key).isSome then row.map fun kv => if kv.1 = key then (key, value) else kv
  else row ++ [(key, value)]

/-- The fields the logger's `csv.DictWriter` writes for a row. -/
def csvRow (row : Row) : List String := dictRow csvFieldnames Cell.text row

/-- A field that was written under a known name is read back. -/
theorem lookup_csvRow {row : Row} {key : String} {cell : Cell} (hkey : key ∈ csvFieldnames)
    (hcell : row.lookup key = some cell) :
    (csvFieldnames.zip (csvRow row)).lookup key = some cell.text := by
  rw [csvRow, lookup_zip_dictRow Cell.text row hkey, hcell]
  rfl

/-- The row of a frame: its flat dict under the given label. -/
def labelledRow (parsed : ParsedTelemetry R) (label : String) : Row :=
  Row.set parsed.toFlatDict "label" (.str label)

/-- `CSVTelemetryLogger`, with its buffer and the state of its file handle. -/
structure CSVTelemetryLogger (R : Type) where
  bufferSize : ℤ
  parser : CANTelemetryParser R
  buffer : List Row
  fileOpen : Bool
  totalLogged : ℕ

/-- What the file system does to one flush. -/
inductive WriteOutcome where
  /-- all rows are written -/
  | success
  /-- `writerows` writes some of the rows, then raises -/
  | writeError (written : ℕ)
  /-- all rows are written, then the flush of the stream raises -/
  | flushError
deriving DecidableEq

namespace CSVTelemetryLogger

/-- `CSVTelemetryLogger.__init__` on a file: the header is written to an empty
one. -/
def new (bufferSize : ℤ) (file : CsvFile) : CSVTelemetryLogger R × CsvFile :=
  (⟨bufferSize, CANTelemetryParser.new, [], true, 0⟩, if file = [] then [csvFieldnames] else file)

/-- `CSVTelemetryLogger.flush`. -/
def flush (io : WriteOutcome) (s : CSVTelemetryLogger R × CsvFile) :
    Except PyError Unit × CSVTelemetryLogger R × CsvFile :=
  let (self, file) := s
  if self.fileOpen = false ∨ self.buffer = [] then (.ok (), s)
  else
    let rows := self.buffer.map csvRow
    match io with
    | .success => (.ok (), ({ self with buffer := [] }, file ++ rows))
    | .writeError written =>
      (.error (.osError "No space left on device"), (self, file ++ rows.take written))
    | .flushError => (.error (.osError "No space left on device"), (self, file ++ rows))

/-- The locked part of `log_frame` before the size test: the row is buffered and
counted. -/
def bufferRow (self : CSVTelemetryLogger R) (row : Row) : CSVTelemetryLogger R :=
  { self with buffer := self.buffer ++ [row], totalLogged := self.totalLogged + 1 }

/-- `CSVTelemetryLogger.log_frame`. -/
def logFrame (io : WriteOutcome) (frame : CANFrame R) (label : String)
    (s : CSVTelemetryLogger R × CsvFile) :
    Except PyError (ParsedTelemetry R) × CSVTelemetryLogger R × CsvFile :=
  let (self, file) := s
  match self.parser.parseFrame frame with
  | (.error e, parser) => (.error e, ({ self with parser := parser }, file))
  | (.ok parsed, parser) =>
    let row := labelledRow parsed label
    let self := bufferRow { self with parser := parser } row
    if self.bufferSize ≤ (self.buffer.length : ℤ) then
      match flush io (self, file) with
      | (.ok (), s) => (.ok parsed, s)
      | (.error e, s) => (.error e, s)
    else (.ok parsed, (self, file))

/-- `CSVTelemetryLogger.close`. -/
def close (io : WriteOutcome) (s : CSVTelemetryLogger R × CsvFile) :
    Except PyError Unit × CSVTelemetryLogger R × CsvFile :=
  match flush io s with
  | (.ok (), (self, file)) => (.ok (), ({ self with fileOpen := false }, file))
  | (.error e, s) => (.error e, s)

/-- A `log_frame` call: the frame, the label, and what the file system would do to
a flush. -/
structure LogCall (R : Type) where
  frame : CANFrame R
  label : String
  io : WriteOutcome

/-- One `log_frame` call. -/
def logCall (s : CSVTelemetryLogger R × CsvFile) (call : LogCall R) :
    Except PyError (ParsedTelemetry R) × CSVTelemetryLogger R × CsvFile :=
  logFrame call.io call.frame call.label s

/-! ## What a flush and a call can do -/

omit [PyFloat R] in
/-- **Inversion of a flush** on an open file: it raises, or it returns and the buffer
has moved to the file. -/
theorem flush_cases (io : WriteOutcome) {self : CSVTelemetryLogger R} (file : CsvFile)
    (hopen : self.fileOpen = true) :
    (∃ e s, flush io (self, file) = (.error e, s)) ∨
      flush io (self, file) =
        (.ok (), { self with buffer := [] }, file ++ self.buffer.map csvRow) := by
  rw [flush]
  dsimp only
  by_cases hidle : self.fileOpen = false ∨ self.buffer = []
  · have hnil : self.buffer = [] := hidle.resolve_left (by simp [hopen])
    rw [if_pos hidle, hnil, List.map_nil, List.append_nil, ← hnil]
    exact .inr rfl
  · rw [if_neg hidle]
    cases io with
    | success => exact .inr rfl
    | writeError written => exact .inl ⟨_, _, rfl⟩
    | flushError => exact .inl ⟨_, _, rfl⟩

/-- The row of a frame: its telemetry, whatever the measured times and the decoded
signals, under its label. -/
def IsRowOf (frame : CANFrame R) (label : String) (row : Row) : Prop :=
  ∃ deltaT globalDeltaT signals,
    row = labelledRow (CANTelemetryParser.telemetryOf frame deltaT globalDeltaT signals) label

/-- A written row has its label in the column of that name. -/
theorem IsRowOf.lookup_label {frame : CANFrame R} {label : String} {row : Row}
    (h : IsRowOf frame label row) :
    (csvFieldnames.zip (csvRow row)).lookup "label" = some label := by
  obtain ⟨_, _, _, rfl⟩ := h
  exact @lookup_csvRow _ _ (.str label) (by decide) rfl

/-- **A returning call** on an open file: one row enters the buffer, and then the
buffer may move to the file. -/
theorem logCall_of_ok {self : CSVTelemetryLogger R} {file : CsvFile} {call : LogCall R}
    (hopen : self.fileOpen = true) (h : (logCall (self, file) call).1.isOk) :
    ∃ row parser, IsRowOf call.frame call.label row ∧
      ((logCall (self, file) call).2 = (bufferRow { self with parser := parser } row, file) ∨
        (logCall (self, file) call).2 =
          ({ bufferRow { self with parser := parser } row with buffer := [] },
            file ++ (self.buffer ++ [row]).map csvRow)) := by
  unfold logCall logFrame at h ⊢
  dsimp only at h ⊢
  rcases self.parser.parseFrame_cases call.frame with ⟨signals, _, hout⟩ | ⟨e, _, hout⟩
  · rw [hout] at h ⊢
    dsimp only at h ⊢
    generalize hrow : labelledRow (_ : ParsedTelemetry R) call.label = row at h ⊢
    generalize self.parser.recordArrival _ _ = parser at h ⊢
    refine ⟨row, parser, ⟨_, _, signals, hrow.symm⟩, ?_⟩
    have hopen' : (bufferRow { self with parser := parser } row).fileOpen = true := hopen
    by_cases hfull : (bufferRow { self with parser := parser } row).bufferSize ≤
        ((bufferRow { self with parser := parser } row).buffer.length : ℤ)
    · rw [if_pos hfull] at h ⊢
      rcases flush_cases call.io file hopen' with ⟨e, s, hflush⟩ | hflush
      · rw [hflush] at h
        cases h
      · rw [hflush]
        exact .inr rfl
    · rw [if_neg hfull]
      exact .inl rfl
  · rw [hout] at h
    cases h

/-! ## The file of a run -/

/-- The rows of the accepted calls are those in the file after its first rows
`head`, followed by the buffer. -/
structure LoggerInv (head : CsvFile) (calls : List (LogCall R))
    (s : CSVTelemetryLogger R × CsvFile) : Prop where
  fileOpen : s.1.fileOpen = true
  rows : ∃ rows, List.Forall₂ (fun call row => IsRowOf call.frame call.label row) calls rows ∧
    s.2 ++ s.1.buffer.map csvRow = head ++ rows.map csvRow

/-- The step: a returning call adds its row. -/
theorem LoggerInv.logCall {head : CsvFile} {calls : List (LogCall R)}
    {s : CSVTelemetryLogger R × CsvFile} (h : LoggerInv head calls s) {call : LogCall R}
    (hok : (logCall s call).1.isOk) : LoggerInv head (calls ++ [call]) (logCall s call).2 := by
  obtain ⟨self, file⟩ := s
  obtain ⟨hopen, rows, hrows, hfile⟩ := h
  obtain ⟨row, parser, hrow, hs⟩ := logCall_of_ok hopen hok
  have hall : file ++ (self.buffer ++ [row]).map csvRow = head ++ (rows ++ [row]).map csvRow := by
    rw [List.map_append, List.map_append, ← List.append_assoc, ← List.append_assoc, ← hfile]
  refine ⟨?_, rows ++ [row], List.rel_append hrows (.cons hrow .nil), ?_⟩
  · rcases hs with hs | hs <;> rw [hs] <;> exact hopen
  · rcases hs with hs | hs
    · rw [hs]
      exact hall
    · rw [hs]
      exact (List.append_nil _).trans hall

/-- The invariant along a run whose calls all return. -/
theorem loggerInv_final {bufferSize : ℤ} {file : CsvFile} {calls : List (LogCall R)}
    (hok : ∀ r ∈ Machine.outputs CSVTelemetryLogger.logCall (new bufferSize file) calls, r.isOk) :
    LoggerInv (new bufferSize file : CSVTelemetryLogger R × CsvFile).2 calls
      (Machine.final CSVTelemetryLogger.logCall (new bufferSize file) calls) := by
  induction calls using List.reverseRecOn with
  | nil => exact ⟨rfl, [], .nil, rfl⟩
  | append_singleton calls call ih =>
    rw [Machine.outputs_concat, List.forall_mem_append, List.forall_mem_singleton] at hok
    rw [Machine.final_concat]
    exact (ih hok.1).logCall hok.2

/-- **The file of a logger.** If all calls return and so does `close`, the file is
its first rows followed by one row for each call. -/
theorem close_file {bufferSize : ℤ} {file : CsvFile} {calls : List (LogCall R)}
    (hok : ∀ r ∈ Machine.outputs logCall (new bufferSize file) calls, r.isOk) {io : WriteOutcome}
    (hclose : (close io (Machine.final logCall (new bufferSize file) calls)).1.isOk) :
    ∃ rows, List.Forall₂ (fun call row => IsRowOf call.frame call.label row) calls rows ∧
      (close io (Machine.final logCall (new bufferSize file) calls)).2.2 =
        (new bufferSize file : CSVTelemetryLogger R × CsvFile).2 ++ rows.map csvRow := by
  obtain ⟨hopen, rows, hrows, hfile⟩ := loggerInv_final hok
  refine ⟨rows, hrows, ?_⟩
  generalize Machine.final CSVTelemetryLogger.logCall (new bufferSize file) calls = s at *
  obtain ⟨self, out⟩ := s
  unfold close at hclose ⊢
  rcases flush_cases io out hopen with ⟨e, s, hflush⟩ | hflush
  · rw [hflush] at hclose
    cases hclose
  · rw [hflush]
    exact hfile

end CSVTelemetryLogger

end CanSentinel
