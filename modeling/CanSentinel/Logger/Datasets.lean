import CanSentinel.Logger.Operations
import CanSentinel.Sim.Bounds

/-!
# The data set generators (`logger/csv_logger.py`)

A generator opens a logger of 500 rows, passes it one frame after the other and closes it.
It stops at the first call that raises, and what the logger has buffered is lost then.

- `recordDataset`: the part the generators share.
- `Recorded`: the invariant. The file holds the rows of the full buffers, the buffer the
  rest.
- `recordDataset_of_decodes`, `recordDataset_of_raise`: what is returned and what the file
  holds.
- `generateBaselineDataset`: the baseline of normal traffic.
-/

namespace CanSentinel

variable {R : Type} [PyFloat R]

namespace CSVTelemetryLogger

/-- The loop of a generator. -/
def recordCalls (s : CSVTelemetryLogger R × CsvFile) :
    List (LogCall R) → Except PyError Unit × CSVTelemetryLogger R × CsvFile
  | [] => (.ok (), s)
  | call :: calls =>
    match logCall s call with
    | (.error e, s) => (.error e, s)
    | (.ok _, s) => recordCalls s calls

/-- The buffer of the generators' logger. -/
def datasetBuffer : ℕ := 500

/-- The calls of a generator on a file; `closing` is what happens to the flush of `close`.
Opening the file and writing its header are taken to succeed. -/
def recordDataset (calls : List (LogCall R)) (closing : WriteOutcome) (file : CsvFile) :
    Except PyError ℕ × CsvFile :=
  match recordCalls (new datasetBuffer file) calls with
  | (.error e, (_, file)) => (.error e, file)
  | (.ok (), s) =>
    match close closing s with
    | (.error e, (_, file)) => (.error e, file)
    | (.ok (), (self, file)) => (.ok self.totalLogged, file)

/-- What a fresh logger starts with. -/
def datasetHead (file : CsvFile) : CsvFile := if file = [] then [csvFieldnames] else file

/-! ## The loop -/

/-- After calls that returned: `k` buffers have been written after `head`. -/
structure Recorded (head : CsvFile) (size : ℕ) (calls : List (LogCall R)) (rows : List Row)
    (k : ℕ) (s : CSVTelemetryLogger R × CsvFile) : Prop where
  rowsOf : List.Forall₂ (fun call row => IsRowOf call.frame call.label row) calls rows
  fileOpen : s.1.fileOpen = true
  bufferSize : s.1.bufferSize = size
  total : s.1.totalLogged = calls.length
  file : s.2 = head ++ (rows.take (size * k)).map csvRow
  buffer : s.1.buffer = rows.drop (size * k)
  room : rows.length < size * k + size
  full : size * k ≤ rows.length

theorem recorded_new (file : CsvFile) {size : ℕ} (hsize : 0 < size) :
    Recorded (datasetHead file) size [] [] 0
      (new size file : CSVTelemetryLogger R × CsvFile) where
  rowsOf := .nil
  fileOpen := rfl
  bufferSize := rfl
  total := rfl
  file := (List.append_nil _).symm
  buffer := rfl
  room := by simpa using hsize
  full := (Nat.mul_zero size).le

variable {head : CsvFile} {size : ℕ} {calls : List (LogCall R)} {rows : List Row} {k : ℕ}
  {s : CSVTelemetryLogger R × CsvFile}

/-- **The step**: a frame that decodes, on a disk that takes the rows if they are written
now. -/
theorem Recorded.logCall (h : Recorded head size calls rows k s) {call : LogCall R}
    (hdec : call.frame.Decodes)
    (hio : call.io = .success ∨ rows.length + 1 < size * k + size) :
    ∃ parsed row k', (logCall s call).1 = .ok parsed ∧
      Recorded head size (calls ++ [call]) (rows ++ [row]) k' (logCall s call).2 := by
  obtain ⟨self, file⟩ := s
  obtain ⟨signals, hsignals⟩ := isOk_iff.mp hdec
  have hbuffer : self.buffer = rows.drop (size * k) := h.buffer
  have hlength : self.buffer.length = rows.length - size * k := by
    rw [hbuffer, List.length_drop]
  have hfull := h.full
  have hroom := h.room
  obtain ⟨signals', _, hout⟩ | ⟨e, herr, _⟩ := self.parser.parseFrame_cases call.frame
  · unfold CSVTelemetryLogger.logCall logFrame
    dsimp only
    rw [hout]
    dsimp only
    generalize hparsed : (CANTelemetryParser.telemetryOf call.frame _ _ signals' :
      ParsedTelemetry R) = parsed
    generalize self.parser.recordArrival _ _ = parser
    have hrow : IsRowOf call.frame call.label (labelledRow parsed call.label) :=
      ⟨_, _, signals', by rw [← hparsed]⟩
    generalize labelledRow parsed call.label = row at hrow ⊢
    have hrows := List.rel_append h.rowsOf (.cons hrow .nil)
    have hsize : (bufferRow { self with parser := parser } row).bufferSize = size := h.bufferSize
    have hadded : (bufferRow { self with parser := parser } row).buffer.length =
        rows.length - size * k + 1 := by
      rw [← hlength]
      exact List.length_append
    have hfile : file = head ++ (rows.take (size * k)).map csvRow := h.file
    rw [hsize, hadded]
    by_cases hroom' : rows.length + 1 < size * k + size
    · -- the row stays in the buffer
      rw [if_neg (by omega)]
      refine ⟨parsed, row, k, rfl, hrows, h.fileOpen, hsize, ?_, ?_, ?_, ?_, ?_⟩
      · show self.totalLogged + 1 = _
        rw [h.total, List.length_append, List.length_singleton]
      · rw [List.take_append_of_le_length hfull]
        exact hfile
      · show self.buffer ++ [row] = _
        rw [hbuffer, List.drop_append_of_le_length hfull]
      · rw [List.length_append, List.length_singleton]
        exact hroom'
      · rw [List.length_append]
        omega
    · -- the buffer is full
      have hwritten : (bufferRow { self with parser := parser } row).buffer ≠ [] := by
        rw [← List.length_pos_iff, hadded]
        omega
      have hall : (rows ++ [row]).length = size * (k + 1) := by
        rw [List.length_append, List.length_singleton, Nat.mul_add, Nat.mul_one]
        omega
      have hopen : ¬ ((bufferRow { self with parser := parser } row).fileOpen = false ∨
          (bufferRow { self with parser := parser } row).buffer = []) := by
        rw [not_or, Bool.not_eq_false]
        exact ⟨h.fileOpen, hwritten⟩
      rw [if_pos (by omega), flush, if_neg hopen, hio.resolve_right hroom']
      refine ⟨parsed, row, k + 1, rfl, hrows, h.fileOpen, hsize, ?_, ?_, ?_, ?_, ?_⟩
      · show self.totalLogged + 1 = _
        rw [h.total, List.length_append, List.length_singleton]
      · show file ++ (self.buffer ++ [row]).map csvRow = _
        rw [← hall, List.take_length, hfile, hbuffer, List.append_assoc, ← List.map_append,
          ← List.append_assoc, List.take_append_drop]
      · show [] = _
        rw [← hall, List.drop_length]
      · rw [hall]
        omega
      · exact hall.ge
  · rw [hsignals] at herr
    cases herr

/-- **The run**: calls whose frames decode, on a disk that takes the rows, or too few to fill
a buffer. -/
theorem recordCalls_of_decodes (file : CsvFile) {size : ℕ} (hsize : 0 < size)
    (calls more : List (LogCall R)) (hdec : ∀ call ∈ calls, call.frame.Decodes)
    (hio : (∀ call ∈ calls, call.io = .success) ∨ calls.length < size) :
    ∃ rows k s, Recorded (datasetHead file) size calls rows k s ∧
      recordCalls (new size file) (calls ++ more) = recordCalls s more := by
  induction calls using List.reverseRecOn generalizing more with
  | nil => exact ⟨[], 0, _, recorded_new file hsize, rfl⟩
  | append_singleton calls call ih =>
    rw [List.forall_mem_append, List.forall_mem_singleton] at hdec
    rw [List.forall_mem_append, List.forall_mem_singleton, List.length_append,
      List.length_singleton] at hio
    obtain ⟨rows, k, s, hrec, hrun⟩ := ih ([call] ++ more) hdec.1
      (hio.imp (fun hall => hall.1) fun hlt => by omega)
    have hlength := hrec.rowsOf.length_eq
    have hdisk : call.io = .success ∨ rows.length + 1 < size * k + size := by
      rcases hio with hall | hlt
      · exact .inl hall.2
      · exact .inr (by omega)
    obtain ⟨parsed, row, k', hout, hnext⟩ := hrec.logCall hdec.2 hdisk
    refine ⟨_, k', _, hnext, ?_⟩
    rw [List.append_assoc, hrun, List.singleton_append, recordCalls]
    generalize CSVTelemetryLogger.logCall s call = called at hout ⊢
    obtain ⟨out, s'⟩ := called
    obtain rfl : out = .ok parsed := hout
    rfl

/-! ## A generator -/

/-- **If all frames decode**, they are all logged. -/
theorem recordDataset_of_decodes (file : CsvFile) (calls : List (LogCall R))
    (hdec : ∀ call ∈ calls, call.frame.Decodes) (hio : ∀ call ∈ calls, call.io = .success) :
    ∃ rows, List.Forall₂ (fun call row => IsRowOf call.frame call.label row) calls rows ∧
      recordDataset calls .success file =
        (.ok calls.length, datasetHead file ++ rows.map csvRow) := by
  obtain ⟨rows, k, ⟨self, file'⟩, hrec, hrun⟩ :=
    recordCalls_of_decodes file (by decide : 0 < datasetBuffer) calls [] hdec (.inl hio)
  refine ⟨rows, hrec.rowsOf, ?_⟩
  have hclosed := @close_success_file R _ file' hrec.fileOpen
  have heffect := flush_effect .success (self, file')
  rw [List.append_nil] at hrun
  rw [recordDataset, hrun]
  dsimp only [recordCalls]
  have htotal : self.totalLogged = calls.length := hrec.total
  have hbuffer : self.buffer = rows.drop (datasetBuffer * k) := hrec.buffer
  have hfile : file' = datasetHead file ++ (rows.take (datasetBuffer * k)).map csvRow := hrec.file
  have hrows : file' ++ self.buffer.map csvRow = datasetHead file ++ rows.map csvRow := by
    rw [hfile, hbuffer, List.append_assoc, ← List.map_append, List.take_append_drop]
  rw [hrows] at hclosed
  unfold close at hclosed ⊢
  generalize CSVTelemetryLogger.flush .success (self, file') = flushed at heffect hclosed ⊢
  obtain ⟨out, s'⟩ := flushed
  cases heffect with
  | idle _ =>
    dsimp only at hclosed ⊢
    rw [hclosed, htotal]
  | moved _ =>
    dsimp only at hclosed ⊢
    rw [hclosed, htotal]
  | failed _ _ hne _ _ _ => exact absurd rfl hne

/-- **At the first frame that does not decode** the generator raises. The full buffers before
it are in the file. -/
theorem recordDataset_of_raise (file : CsvFile) (calls : List (LogCall R)) (call : LogCall R)
    (more : List (LogCall R)) (closing : WriteOutcome)
    (hdec : ∀ call ∈ calls, call.frame.Decodes) (hraise : ¬ call.frame.Decodes)
    (hio : (∀ call ∈ calls, call.io = .success) ∨ calls.length < datasetBuffer) :
    ∃ rows, List.Forall₂ (fun call row => IsRowOf call.frame call.label row) calls rows ∧
      recordDataset (calls ++ call :: more) closing file =
        (.error (.structError "unpack requires a buffer of 5 bytes"), datasetHead file ++
          (rows.take (datasetBuffer * (calls.length / datasetBuffer))).map csvRow) := by
  obtain ⟨rows, k, ⟨self, file'⟩, hrec, hrun⟩ :=
    recordCalls_of_decodes file (by decide : 0 < datasetBuffer) calls (call :: more) hdec hio
  refine ⟨rows, hrec.rowsOf, ?_⟩
  have hk : calls.length / datasetBuffer = k := by
    have hfull := hrec.full
    have hroom := hrec.room
    rw [← hrec.rowsOf.length_eq] at hfull hroom
    unfold datasetBuffer at *
    omega
  have hfile : file' = datasetHead file ++ (rows.take (datasetBuffer * k)).map csvRow := hrec.file
  rw [CANFrame.decodes_iff, not_not] at hraise
  have hraises : (logCall (self, file') call).1 =
        .error (.structError "unpack requires a buffer of 5 bytes") ∧
      (logCall (self, file') call).2.2 = file' := by
    obtain ⟨signals, hsignals, _⟩ | ⟨e, herr, hout⟩ := self.parser.parseFrame_cases call.frame
    · rw [hraise.1, decodeSignals_transmission _ hraise.2] at hsignals
      cases hsignals
    · rw [hraise.1, decodeSignals_transmission _ hraise.2] at herr
      obtain rfl := Except.error.inj herr
      rw [logCall, logFrame, hout]
      exact ⟨rfl, rfl⟩
  rw [recordDataset, hrun, recordCalls, hk, ← hfile]
  generalize logCall (self, file') call = called at hraises ⊢
  obtain ⟨out, self', file''⟩ := called
  obtain ⟨rfl, rfl⟩ := hraises
  rfl

end CSVTelemetryLogger

/-! ## The baseline -/

open CSVTelemetryLogger

/-- The calls of a generator; `disk i` is what would happen to a flush of call `i`. -/
def datasetCalls (disk : ℕ → WriteOutcome) (events : List (CANFrame R × String)) :
    List (LogCall R) :=
  events.zipIdx.map fun e => ⟨e.1.1, e.1.2, disk e.2⟩

/-- `generate_baseline_dataset`. -/
def generateBaselineDataset (math : MathModule R) (durationSec : R) (disk : ℕ → WriteOutcome)
    (file : CsvFile) : Except PyError ℕ × CsvFile :=
  match generateBatch math durationSec with
  | .error e => (.error e, file)
  | .ok frames =>
    recordDataset (datasetCalls disk (frames.map fun frame => (frame, "NORMAL")))
      (disk frames.length) file

end CanSentinel
