import CanSentinel.Logger.Operations

/-!
# Logger sessions

Loggers opened one after another on the same path, each used by one thread and
closed at the end. As long as the file can be written, the path holds what was there
before, a header if that was nothing, and then the rows of all `log_frame` calls.

- `Session.run`: one logger from its construction to its `close`.
- `SessionInv`: file and buffer together are the rows of the calls so far.
- `sessions_append_rows`: the file, the counters and the buffer over all sessions.
-/

namespace CanSentinel

variable {R : Type} [PyFloat R]

open CSVTelemetryLogger

/-- A call of a session: its flushes succeed. -/
inductive SessionCall (R : Type) where
  | log (frame : CANFrame R) (label : String)
  | flush

/-- The call as an operation of the logger. -/
def SessionCall.op : SessionCall R → LoggerOp R
  | .log frame label => .log ⟨frame, label, .success⟩
  | .flush => .flush .success

/-- A logger and the calls made before its `close`. -/
structure Session (R : Type) where
  bufferSize : ℤ
  calls : List (SessionCall R)

/-- What can be seen of a session: the results of its calls, the last one of `close`,
and the final `total_logged`. -/
structure SessionReport (R : Type) where
  results : List (Except PyError (Option (ParsedTelemetry R)))
  totalLogged : ℕ

namespace Session

/-- The operations of a session before its `close`. -/
def ops (session : Session R) : List (LoggerOp R) := session.calls.map SessionCall.op

/-- The logger and the file after the first calls of a session. -/
def after (session : Session R) (file : CsvFile) (calls : List (SessionCall R)) :
    CSVTelemetryLogger R × CsvFile :=
  Machine.final opCall (new session.bufferSize file) (calls.map SessionCall.op)

/-- A whole session on a file. -/
def run (file : CsvFile) (session : Session R) : SessionReport R × CsvFile :=
  let ops := session.ops ++ [.close .success]
  let s := Machine.final opCall (new session.bufferSize file) ops
  (⟨Machine.outputs opCall (new session.bufferSize file) ops, s.1.totalLogged⟩, s.2)

/-- The `log_frame` calls of a session. -/
def logCalls (session : Session R) : List (LogCall R) :=
  session.ops.filterMap LoggerOp.logCall?

/-- The rows of a session's calls. -/
def rows (session : Session R) : List Row := acceptedRows session.ops

end Session

/-! ## One session -/

/-- After the operations `ops` on a file that began with `head`. -/
structure SessionInv (head : CsvFile) (size : ℤ) (ops : List (LoggerOp R))
    (s : CSVTelemetryLogger R × CsvFile) : Prop where
  fileOpen : s.1.fileOpen = true
  parser : s.1.parser = parserAfter ops
  bufferSize : s.1.bufferSize = size
  rows : s.2 ++ s.1.buffer.map csvRow = head ++ (acceptedRows ops).map csvRow
  total : s.1.totalLogged = (acceptedRows ops).length
  room : (s.1.buffer.length : ℤ) < max 1 size

section Inv

variable {head : CsvFile} {size : ℤ} {ops : List (LoggerOp R)}
  {s s' : CSVTelemetryLogger R × CsvFile}

theorem sessionInv_new (size : ℤ) (file : CsvFile) :
    SessionInv (new size file : CSVTelemetryLogger R × CsvFile).2 size ([] : List (LoggerOp R))
      (new size file) where
  fileOpen := rfl
  parser := rfl
  bufferSize := rfl
  rows := rfl
  total := rfl
  room := lt_max_of_lt_left Int.zero_lt_one

/-- The rows after an operation has buffered what it accepts. -/
theorem SessionInv.rows_accept (h : SessionInv head size ops s) (op : LoggerOp R) :
    s.2 ++ (s.1.accept op).buffer.map csvRow =
      head ++ (acceptedRows (ops ++ [op])).map csvRow := by
  rw [acceptedRows_concat, List.map_append, ← List.append_assoc, ← h.rows, ← h.parser, accept,
    List.map_append, List.append_assoc]

theorem SessionInv.total_accept (h : SessionInv head size ops s) (op : LoggerOp R) :
    (s.1.accept op).totalLogged = (acceptedRows (ops ++ [op])).length := by
  rw [acceptedRows_concat, List.length_append, ← h.total, ← h.parser, accept]

/-- A flush that cannot fail leaves the buffer empty and all rows in the file. -/
theorem SessionInv.flush (h : SessionInv head size ops s) {op : LoggerOp R}
    (hio : op.io = .success) {out : Except PyError Unit}
    (heffect : FlushEffect op.io (s.1.accept op, s.2) out s') :
    s'.1 = { s.1.accept op with buffer := [] } ∧
      s'.2 = head ++ (acceptedRows (ops ++ [op])).map csvRow := by
  have hrows := h.rows_accept op
  cases heffect with
  | idle hidle =>
    have hnil : (s.1.accept op).buffer = [] := buffer_eq_nil_of_idle h.fileOpen hidle
    constructor
    · rw [← hnil]
    · rw [← hrows, hnil, List.map_nil, List.append_nil]
  | moved _ => exact ⟨rfl, hrows⟩
  | failed _ _ hne _ _ _ => exact absurd hio hne

/-- **The step.** -/
theorem SessionInv.opCall (h : SessionInv head size ops s) (call : SessionCall R) :
    SessionInv head size (ops ++ [call.op]) (opCall s call.op).2 := by
  have hio : call.op.io = .success := by cases call <;> rfl
  have heffect := opCall_effect s call.op
  generalize hop : call.op = op at *
  generalize (CSVTelemetryLogger.opCall s op).1.isOk = ok at heffect
  generalize (CSVTelemetryLogger.opCall s op).2 = s' at heffect ⊢
  cases heffect with
  | kept _ _ hroom =>
    refine ⟨h.fileOpen, ?_, h.bufferSize, h.rows_accept op, h.total_accept op, ?_⟩
    · rw [parserAfter_concat, ← h.parser, accept]
    · rcases hroom with hnone | hroom
      · rw [accept, hnone, List.append_nil]
        exact h.room
      · rw [h.bufferSize] at hroom
        exact lt_max_of_lt_right hroom
  | flushed heffect =>
    obtain ⟨hself, hfile⟩ := h.flush hio heffect
    refine ⟨?_, ?_, ?_, ?_, ?_, ?_⟩
    · rw [hself]
      exact h.fileOpen
    · rw [hself, parserAfter_concat, ← h.parser, accept]
    · rw [hself]
      exact h.bufferSize
    · rw [hself, hfile, List.map_nil, List.append_nil]
    · rw [hself]
      exact h.total_accept op
    · rw [hself]
      exact lt_max_of_lt_left Int.zero_lt_one
  | closed hclose _ =>
    cases call <;> subst hop <;> cases hclose

theorem sessionInv_after (session : Session R) (file : CsvFile) (calls : List (SessionCall R)) :
    SessionInv (new session.bufferSize file : CSVTelemetryLogger R × CsvFile).2 session.bufferSize
      (calls.map SessionCall.op) (session.after file calls) := by
  induction calls using List.reverseRecOn with
  | nil => exact sessionInv_new _ _
  | append_singleton calls call ih =>
    rw [Session.after, List.map_append, List.map_singleton, Machine.final_concat]
    exact ih.opCall call

/-- `close` leaves the rows in the file. -/
theorem SessionInv.close (h : SessionInv head size ops s) :
    (CSVTelemetryLogger.opCall s (.close .success)).2.2 =
        head ++ (acceptedRows ops).map csvRow ∧
      (CSVTelemetryLogger.opCall s (.close .success)).2.1.totalLogged =
        (acceptedRows ops).length := by
  have heffect := opCall_effect s (.close .success)
  generalize (CSVTelemetryLogger.opCall s (.close .success)).1.isOk = ok at heffect
  generalize (CSVTelemetryLogger.opCall s (.close .success)).2 = s' at heffect ⊢
  have hnone : acceptedRows (ops ++ [.close .success]) = acceptedRows ops := by
    rw [acceptedRows_concat]
    exact List.append_nil _
  have htotal := h.total_accept (.close .success)
  rw [hnone] at htotal
  cases heffect with
  | kept _ hlog _ => cases hlog
  | flushed heffect =>
    obtain ⟨hself, hfile⟩ := h.flush rfl heffect
    rw [hself, hfile, hnone]
    exact ⟨rfl, htotal⟩
  | closed _ heffect =>
    obtain ⟨hself, hfile⟩ := h.flush rfl heffect
    refine ⟨hfile.trans (by rw [hnone]), ?_⟩
    rw [hself]
    exact htotal

end Inv

/-- **One session**: its rows follow what was in the file, after a header if that was
nothing, and it has counted them. -/
theorem Session.run_eq (session : Session R) (file : CsvFile) :
    (session.run file).2 =
        (if file = [] then [csvFieldnames] else file) ++ session.rows.map csvRow ∧
      (session.run file).1.totalLogged = session.rows.length := by
  obtain ⟨hfile, htotal⟩ := (sessionInv_after session file session.calls).close
  unfold Session.run
  dsimp only
  rw [Machine.final_concat]
  exact ⟨hfile, htotal⟩

/-- A session whose calls return has decoded all its frames. -/
theorem Session.decodes (session : Session R) (file : CsvFile)
    (hreturn : ∀ r ∈ (session.run file).1.results, r.isOk) :
    ∀ call ∈ session.logCalls, call.frame.Decodes := by
  intro call hcall
  obtain ⟨op, hmem, hop⟩ := List.mem_filterMap.mp hcall
  have hlog : op = .log call := by
    cases op with
    | log call' => exact congrArg _ (Option.some.inj hop)
    | flush io => cases hop
    | close io => cases hop
  subst hlog
  obtain ⟨pre, post, hops⟩ := List.append_of_mem hmem
  refine decodes_of_opCall_isOk (s := Machine.final opCall (new session.bufferSize file) pre) ?_
  refine hreturn _ ((Machine.mem_outputs_iff _ _ _ _).mpr ⟨pre, _, post ++ [.close .success], ?_, rfl⟩)
  rw [hops, List.append_assoc, List.cons_append]

/-! ## Several sessions -/

/-- The header is not the row of a frame: its first field is no decimal number. -/
theorem CSVTelemetryLogger.IsRowOf.csvRow_ne {frame : CANFrame R} {label : String} {row : Row}
    (h : IsRowOf frame label row) : csvRow row ≠ csvFieldnames := by
  obtain ⟨_, _, _, rfl⟩ := h
  intro heq
  have hfield : fmtFixed frame.timestamp 6 = "timestamp" :=
    congrArg (fun fields => fields.getD 0 "") heq
  have hpoint : '.' ∈ (fmtFixed frame.timestamp 6).toList := by
    rw [fmtFixed, String.toList_ofList]
    by_cases hneg : frame.timestamp < 0 <;> simp [hneg, fixedChars]
  rw [hfield] at hpoint
  exact absurd hpoint (by decide)

/-- The file and the counters after several sessions. -/
theorem final_run_eq (sessions : List (Session R)) (file : CsvFile) :
    Machine.final Session.run file sessions =
        (if file = [] ∧ sessions ≠ [] then [csvFieldnames] else file) ++
          (sessions.flatMap Session.rows).map csvRow ∧
      (Machine.outputs Session.run file sessions).map SessionReport.totalLogged =
        sessions.map fun session => session.rows.length := by
  induction sessions generalizing file with
  | nil => simp
  | cons session sessions ih =>
    obtain ⟨hfile, htotal⟩ := session.run_eq file
    obtain ⟨hfiles, htotals⟩ := ih (session.run file).2
    have hne : (session.run file).2 ≠ [] := by
      rw [hfile]
      by_cases h : file = [] <;> simp [h]
    constructor
    · rw [Machine.final_cons, hfiles, if_neg fun h => hne h.1, hfile, List.flatMap_cons,
        List.map_append, List.append_assoc]
      simp
    · rw [Machine.outputs_cons, List.map_cons, htotal, htotals, List.map_cons]

/-- **The log is an exact append-only record.** For every sequence of sessions on one
path in which every call returns:

- the file is its old content, or one header if there was none, followed by the rows
  of the sessions in order, none of which is a header;
- the rows of a session are those of its `log_frame` calls, one for each, in order, each
  with the given label in the column of that name;
- `total_logged` of each session is the number of its rows;
- between calls the buffer holds fewer than `max(1, buffer_size)` rows. -/
theorem sessions_append_rows (sessions : List (Session R)) (file : CsvFile)
    (hreturn : ∀ report ∈ Machine.outputs Session.run file sessions,
      ∀ r ∈ report.results, r.isOk) :
    Machine.final Session.run file sessions =
        (if file = [] ∧ sessions ≠ [] then [csvFieldnames] else file) ++
          (sessions.flatMap Session.rows).map csvRow ∧
      (∀ row ∈ sessions.flatMap Session.rows, csvRow row ≠ csvFieldnames) ∧
      (∀ session ∈ sessions, List.Forall₂
        (fun call row => IsRowOf call.frame call.label row ∧
          (csvFieldnames.zip (csvRow row)).lookup "label" = some call.label)
        session.logCalls session.rows) ∧
      (Machine.outputs Session.run file sessions).map SessionReport.totalLogged =
        sessions.map (fun session => session.rows.length) ∧
      ∀ session ∈ sessions, ∀ before calls, calls <+: session.calls →
        ((session.after before calls).1.buffer.length : ℤ) < max 1 session.bufferSize := by
  obtain ⟨hfile, htotals⟩ := final_run_eq sessions file
  have hrows : ∀ session ∈ sessions, List.Forall₂
      (fun call row => IsRowOf call.frame call.label row) session.logCalls session.rows := by
    intro session hsession
    obtain ⟨pre, post, hsessions⟩ := List.append_of_mem hsession
    refine forall₂_acceptedRows (session.decodes (Machine.final Session.run file pre) ?_)
    exact hreturn _ ((Machine.mem_outputs_iff _ _ _ _).mpr ⟨pre, session, post, hsessions, rfl⟩)
  refine ⟨hfile, ?_, ?_, htotals, ?_⟩
  · intro row hrow
    obtain ⟨session, hsession, hmem⟩ := List.mem_flatMap.mp hrow
    have hflip : List.Forall₂ (fun row call => csvRow row ≠ csvFieldnames ∧
        IsRowOf call.frame call.label row) session.rows session.logCalls :=
      (hrows session hsession).flip.imp fun row call hof => ⟨IsRowOf.csvRow_ne hof, hof⟩
    exact ((List.forall₂_and_left _ _).mp hflip).1 row hmem
  · intro session hsession
    exact (hrows session hsession).imp fun _ _ hrow => ⟨hrow, hrow.lookup_label⟩
  · intro session _ before calls _
    exact (sessionInv_after session before calls).room

/-- Two sessions on a fresh path: one flushes by hand, one at every row. -/
def doorSessions : List (Session ℚ) :=
  [⟨100, [.log (CANFrame.new 0 canIdBodyDoors [255, 0, 1] none false false false (some 1)) "NORMAL",
      .flush]⟩,
    ⟨-1, [.log (CANFrame.new 0 canIdBodyDoors [] none false false false (some 2)) "SPOOF"]⟩]

theorem sessions_append_rows_doors :
    (Machine.outputs Session.run [] doorSessions).map SessionReport.totalLogged =
      doorSessions.map fun session => session.rows.length :=
  (sessions_append_rows doorSessions [] (by decide +kernel)).2.2.2.1

end CanSentinel
