import CanSentinel.Logger.CsvLogger

/-!
# Operations of the CSV logger

A logger's life is a sequence of `log_frame`, `flush` and `close` calls, each with
what the file system does to it.

- `acceptedRows ops`: the rows the calls buffer. They depend on the frames alone:
  the parser runs as it would without the buffer and the file.
- `FlushEffect`, `OpEffect`: the inversion lemmas. Every call buffers what it
  accepts, then may flush, then may drop the file handle.
- `final_closed`: once the handle is gone the file stays as it is.
-/

namespace CanSentinel

variable {R : Type} [PyFloat R]

namespace CSVTelemetryLogger

/-- A call of a logger's methods. -/
inductive LoggerOp (R : Type) where
  | log (call : LogCall R)
  | flush (io : WriteOutcome)
  | close (io : WriteOutcome)

/-- The `log_frame` calls of a sequence of operations. -/
def LoggerOp.logCall? : LoggerOp R → Option (LogCall R)
  | .log call => some call
  | _ => none

/-- What the file system would do to a flush of the operation. -/
def LoggerOp.io : LoggerOp R → WriteOutcome
  | .log call => call.io
  | .flush io => io
  | .close io => io

/-- One operation; only `log_frame` returns a value. -/
def opCall (s : CSVTelemetryLogger R × CsvFile) :
    LoggerOp R → Except PyError (Option (ParsedTelemetry R)) × CSVTelemetryLogger R × CsvFile
  | .log call =>
    let (out, s) := logCall s call
    (out.map some, s)
  | .flush io =>
    let (out, s) := CSVTelemetryLogger.flush io s
    (out.map fun _ => none, s)
  | .close io =>
    let (out, s) := CSVTelemetryLogger.close io s
    (out.map fun _ => none, s)

/-! ## The rows of the calls -/

/-- The rows an operation adds to the buffer, and the parser after it. -/
def acceptRows (parser : CANTelemetryParser R) :
    LoggerOp R → List Row × CANTelemetryParser R
  | .log call =>
    match parser.parseFrame call.frame with
    | (.ok parsed, parser) => ([labelledRow parsed call.label], parser)
    | (.error _, parser) => ([], parser)
  | _ => ([], parser)

/-- The rows a sequence of operations adds to the buffer of a fresh logger. -/
def acceptedRows (ops : List (LoggerOp R)) : List Row :=
  (Machine.outputs acceptRows CANTelemetryParser.new ops).flatten

/-- The parser after a sequence of operations. -/
def parserAfter (ops : List (LoggerOp R)) : CANTelemetryParser R :=
  Machine.final acceptRows CANTelemetryParser.new ops

@[simp] theorem acceptedRows_concat (ops : List (LoggerOp R)) (op : LoggerOp R) :
    acceptedRows (ops ++ [op]) = acceptedRows ops ++ (acceptRows (parserAfter ops) op).1 := by
  simp [acceptedRows, parserAfter]

@[simp] theorem parserAfter_concat (ops : List (LoggerOp R)) (op : LoggerOp R) :
    parserAfter (ops ++ [op]) = (acceptRows (parserAfter ops) op).2 :=
  Machine.final_concat _ _ _ _

/-- A call whose frame decodes adds one row, under its label. -/
theorem acceptRows_log (parser : CANTelemetryParser R) {call : LogCall R}
    (hdec : call.frame.Decodes) :
    ∃ row, (acceptRows parser (.log call)).1 = [row] ∧ IsRowOf call.frame call.label row := by
  obtain ⟨signals, hsignals⟩ := isOk_iff.mp hdec
  rcases parser.parseFrame_cases call.frame with ⟨signals', _, hout⟩ | ⟨e, herr, _⟩
  · exact ⟨_, by rw [acceptRows, hout], _, _, signals', rfl⟩
  · rw [hsignals] at herr
    cases herr

/-- If all frames decode, there is one row for each call, in their order. -/
theorem forall₂_acceptedRows {ops : List (LoggerOp R)}
    (hdec : ∀ call ∈ ops.filterMap LoggerOp.logCall?, call.frame.Decodes) :
    List.Forall₂ (fun call row => IsRowOf call.frame call.label row)
      (ops.filterMap LoggerOp.logCall?) (acceptedRows ops) := by
  induction ops using List.reverseRecOn with
  | nil => exact .nil
  | append_singleton ops op ih =>
    rw [List.filterMap_append, List.forall_mem_append] at hdec
    rw [List.filterMap_append, acceptedRows_concat]
    refine List.rel_append (ih hdec.1) ?_
    cases op with
    | log call =>
      obtain ⟨row, hrow, hof⟩ := acceptRows_log (parserAfter ops)
        (hdec.2 call (by simp [LoggerOp.logCall?]))
      rw [hrow]
      exact .cons hof .nil
    | flush io => exact .nil
    | close io => exact .nil

/-! ## What an operation can do -/

/-- What a flush does to a logger and its file: nothing, when the file is closed or
the buffer empty; it moves the buffer to the file; or it raises, and some of the
buffered rows have reached the file while all of them stay in the buffer. -/
inductive FlushEffect (io : WriteOutcome) (s : CSVTelemetryLogger R × CsvFile) :
    Except PyError Unit → CSVTelemetryLogger R × CsvFile → Prop
  | idle : s.1.fileOpen = false ∨ s.1.buffer = [] → FlushEffect io s (.ok ()) s
  | moved : s.1.fileOpen = true →
      FlushEffect io s (.ok ()) ({ s.1 with buffer := [] }, s.2 ++ s.1.buffer.map csvRow)
  | failed (e : PyError) (part : CsvFile) : io ≠ .success → s.1.fileOpen = true →
      s.1.buffer ≠ [] → part <+: s.1.buffer.map csvRow →
      FlushEffect io s (.error e) (s.1, s.2 ++ part)

omit [PyFloat R] in
theorem flush_effect (io : WriteOutcome) (s : CSVTelemetryLogger R × CsvFile) :
    FlushEffect io s (CSVTelemetryLogger.flush io s).1 (CSVTelemetryLogger.flush io s).2 := by
  obtain ⟨self, file⟩ := s
  unfold CSVTelemetryLogger.flush
  dsimp only
  by_cases hidle : self.fileOpen = false ∨ self.buffer = []
  · rw [if_pos hidle]
    exact .idle hidle
  · rw [if_neg hidle]
    rw [not_or, Bool.not_eq_false] at hidle
    cases io with
    | success => exact .moved hidle.1
    | writeError written =>
      exact .failed _ _ (by simp) hidle.1 hidle.2 (List.take_prefix _ _)
    | flushError => exact .failed _ _ (by simp) hidle.1 hidle.2 (List.prefix_refl _)

omit [PyFloat R] in
/-- On an open file a flush has nothing to do only if the buffer is empty. -/
theorem buffer_eq_nil_of_idle {self : CSVTelemetryLogger R} (hopen : self.fileOpen = true)
    (hidle : self.fileOpen = false ∨ self.buffer = []) : self.buffer = [] := by
  refine hidle.resolve_left ?_
  intro hclosed
  exact absurd (hopen.symm.trans hclosed) (by decide)

/-- The logger after it has parsed the frame of an operation and buffered its row. -/
def accept (self : CSVTelemetryLogger R) (op : LoggerOp R) : CSVTelemetryLogger R where
  bufferSize := self.bufferSize
  parser := (acceptRows self.parser op).2
  buffer := self.buffer ++ (acceptRows self.parser op).1
  fileOpen := self.fileOpen
  totalLogged := self.totalLogged + (acceptRows self.parser op).1.length

@[simp] theorem accept_flush (self : CSVTelemetryLogger R) (io : WriteOutcome) :
    self.accept (.flush io) = self := by
  simp [accept, acceptRows]

@[simp] theorem accept_close (self : CSVTelemetryLogger R) (io : WriteOutcome) :
    self.accept (.close io) = self := by
  simp [accept, acceptRows]

/-- What an operation does, with whether it returns: it buffers what it accepts, and
then does not flush (nothing was added, or the buffer has room), or flushes, or
closes the file after a flush that returned. -/
inductive OpEffect (s : CSVTelemetryLogger R × CsvFile) (op : LoggerOp R) :
    Bool → CSVTelemetryLogger R × CsvFile → Prop
  | kept (ok : Bool) : op.logCall?.isSome →
      (acceptRows s.1.parser op).1 = [] ∨
        ((s.1.accept op).buffer.length : ℤ) < s.1.bufferSize →
      OpEffect s op ok (s.1.accept op, s.2)
  | flushed {out : Except PyError Unit} {s' : CSVTelemetryLogger R × CsvFile} :
      FlushEffect op.io (s.1.accept op, s.2) out s' → OpEffect s op out.isOk s'
  | closed {s' : CSVTelemetryLogger R × CsvFile} : op = .close op.io →
      FlushEffect op.io (s.1.accept op, s.2) (.ok ()) s' →
      OpEffect s op true ({ s'.1 with fileOpen := false }, s'.2)

/-- A call that returns a value or raises does the same under `map`. -/
theorem isOk_map {ε α β : Type} (f : α → β) (out : Except ε α) : (out.map f).isOk = out.isOk := by
  cases out <;> rfl

/-- `log_frame`: a frame that cannot be decoded has no row, a full buffer is flushed. -/
theorem logCall_effect (self : CSVTelemetryLogger R) (file : CsvFile) (call : LogCall R) :
    OpEffect (self, file) (.log call) (opCall (self, file) (.log call)).1.isOk
      (opCall (self, file) (.log call)).2 := by
  unfold opCall logCall logFrame
  dsimp only
  rw [isOk_map]
  cases hparse : self.parser.parseFrame call.frame with
  | mk out parser =>
    cases out with
    | error e =>
      -- the parser has recorded the frame, but there is no row
      have haccept : self.accept (.log call) = { self with parser := parser } := by
        simp [accept, acceptRows, hparse]
      dsimp only
      rw [← haccept]
      exact .kept _ rfl (.inl (by simp [acceptRows, hparse]))
    | ok parsed =>
      have haccept : self.accept (.log call) =
          bufferRow { self with parser := parser } (labelledRow parsed call.label) := by
        simp [accept, acceptRows, hparse, bufferRow]
      dsimp only
      rw [← haccept]
      by_cases hfull : (self.accept (.log call)).bufferSize ≤
          ((self.accept (.log call)).buffer.length : ℤ)
      · rw [if_pos hfull]
        have heffect := flush_effect call.io (self.accept (.log call), file)
        generalize CSVTelemetryLogger.flush call.io (self.accept (.log call), file) = flushed at *
        obtain ⟨out, s'⟩ := flushed
        have hflushed : OpEffect (self, file) (.log call) out.isOk s' := .flushed heffect
        cases out with
        | ok _ => exact hflushed
        | error e => exact hflushed
      · rw [if_neg hfull]
        exact .kept _ rfl (.inr (not_le.mp hfull))

/-- **Inversion of an operation.** -/
theorem opCall_effect (s : CSVTelemetryLogger R × CsvFile) (op : LoggerOp R) :
    OpEffect s op (opCall s op).1.isOk (opCall s op).2 := by
  obtain ⟨self, file⟩ := s
  cases op with
  | log call => exact logCall_effect self file call
  | flush io =>
    have heffect := flush_effect io (self, file)
    unfold opCall
    dsimp only
    rw [isOk_map]
    generalize CSVTelemetryLogger.flush io (self, file) = flushed at *
    rw [← accept_flush self io] at heffect
    exact .flushed heffect
  | close io =>
    have heffect := flush_effect io (self, file)
    unfold opCall CSVTelemetryLogger.close
    dsimp only
    rw [isOk_map]
    generalize CSVTelemetryLogger.flush io (self, file) = flushed at *
    obtain ⟨out, s'⟩ := flushed
    rw [← accept_close self io] at heffect
    cases out with
    | ok _ => exact .closed rfl heffect
    | error e =>
      -- the flush raised, so the handle stays open
      have hflushed : OpEffect (self, file) (.close io)
        (Except.isOk (.error e : Except PyError Unit)) s' := .flushed heffect
      exact hflushed

/-- A call that returns has decoded its frame. -/
theorem decodes_of_opCall_isOk {s : CSVTelemetryLogger R × CsvFile} {call : LogCall R}
    (h : (opCall s (.log call)).1.isOk) : call.frame.Decodes := by
  obtain ⟨self, file⟩ := s
  rcases self.parser.parseFrame_cases call.frame with ⟨signals, hsignals, _⟩ | ⟨e, _, hout⟩
  · exact isOk_iff.mpr ⟨signals, hsignals⟩
  · rw [opCall, logCall, logFrame, hout] at h
    cases h

/-- A `close` that returns has dropped the file handle. -/
theorem fileOpen_of_close {s : CSVTelemetryLogger R × CsvFile} {io : WriteOutcome}
    (h : (opCall s (.close io)).1.isOk) : (opCall s (.close io)).2.1.fileOpen = false := by
  unfold opCall CSVTelemetryLogger.close at h ⊢
  dsimp only at h ⊢
  generalize CSVTelemetryLogger.flush io s = flushed at h ⊢
  obtain ⟨out, s'⟩ := flushed
  cases out with
  | ok _ => rfl
  | error e => cases h

/-- Without a file handle no operation writes. -/
theorem opCall_closed {s : CSVTelemetryLogger R × CsvFile} (h : s.1.fileOpen = false)
    (op : LoggerOp R) :
    (opCall s op).2.1.fileOpen = false ∧ (opCall s op).2.2 = s.2 := by
  have heffect := opCall_effect s op
  have hidle : ∀ {out : Except PyError Unit} {s' : CSVTelemetryLogger R × CsvFile},
      FlushEffect op.io (s.1.accept op, s.2) out s' → s' = (s.1.accept op, s.2) := by
    intro out s' heffect
    cases heffect with
    | idle _ => rfl
    | moved hopen => exact absurd (h.symm.trans hopen) (by decide)
    | failed _ _ _ hopen _ _ => exact absurd (h.symm.trans hopen) (by decide)
  generalize (opCall s op).1.isOk = ok at heffect
  generalize (opCall s op).2 = s' at heffect ⊢
  cases heffect with
  | kept _ _ _ => exact ⟨h, rfl⟩
  | flushed heffect =>
    rw [hidle heffect]
    exact ⟨h, rfl⟩
  | closed _ heffect =>
    rw [hidle heffect]
    exact ⟨rfl, rfl⟩

theorem final_closed {s : CSVTelemetryLogger R × CsvFile} (h : s.1.fileOpen = false)
    (ops : List (LoggerOp R)) : (Machine.final opCall s ops).2 = s.2 := by
  have hinv := Machine.final_inv (f := opCall)
    (I := fun s' => s'.1.fileOpen = false ∧ s'.2 = s.2) ⟨h, rfl⟩ ?_ ops
  · exact hinv.2
  · intro s' op hs'
    obtain ⟨hclosed, hfile⟩ := opCall_closed hs'.1 op
    exact ⟨hclosed, hfile.trans hs'.2⟩

omit [PyFloat R] in
/-- A `close` that the file system does not fail moves the buffer to the file. -/
theorem close_success_file {self : CSVTelemetryLogger R} {file : CsvFile}
    (hopen : self.fileOpen = true) :
    (CSVTelemetryLogger.close .success (self, file)).2.2 = file ++ self.buffer.map csvRow := by
  have heffect := flush_effect .success (self, file)
  unfold CSVTelemetryLogger.close
  generalize CSVTelemetryLogger.flush .success (self, file) = flushed at heffect ⊢
  obtain ⟨out, s'⟩ := flushed
  cases heffect with
  | idle hidle =>
    rw [buffer_eq_nil_of_idle hopen hidle]
    exact (List.append_nil file).symm
  | moved _ => rfl
  | failed _ _ hne _ _ _ => exact absurd rfl hne

end CSVTelemetryLogger

end CanSentinel
