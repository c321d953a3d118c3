import CanSentinel.Logger.Sessions

/-!
# Logging after `close` (`logger/csv_logger.py`)

`close` drops the file handle, but `log_frame` goes on buffering and counting, and
`flush` returns at once. While writes succeed, the rows that reach the file are those
accepted before the first `close`.

- `opCall_counts`: what every operation does to the parser and to the counter, in whatever
  state the file is.
- `rows_added_iff`: the counter is the number of rows added to the file exactly when no
  frame with a row is logged after the first `close`.
-/

namespace CanSentinel

variable {R : Type} [PyFloat R]

namespace CSVTelemetryLogger

/-! ## The counter -/

/-- An operation moves the parser and the counter as its accepted rows say. -/
theorem opCall_counts (s : CSVTelemetryLogger R × CsvFile) (op : LoggerOp R) :
    (opCall s op).2.1.parser = (acceptRows s.1.parser op).2 ∧
      (opCall s op).2.1.totalLogged =
        s.1.totalLogged + (acceptRows s.1.parser op).1.length := by
  have heffect := opCall_effect s op
  generalize (opCall s op).1.isOk = ok at heffect
  generalize (opCall s op).2 = s' at heffect ⊢
  cases heffect with
  | kept _ _ _ => exact ⟨rfl, rfl⟩
  | flushed heffect => cases heffect <;> exact ⟨rfl, rfl⟩
  | closed _ heffect => cases heffect <;> exact ⟨rfl, rfl⟩

theorem parser_final (size : ℤ) (file : CsvFile) (ops : List (LoggerOp R)) :
    (Machine.final opCall (new size file) ops).1.parser = parserAfter ops :=
  Machine.final_map (p := fun s : CSVTelemetryLogger R × CsvFile => s.1.parser)
    (fun s op => (opCall_counts s op).1) _ ops

/-- The counter counts the buffered rows, before and after a `close`. -/
theorem final_totalLogged (size : ℤ) (file : CsvFile) (ops : List (LoggerOp R)) :
    (Machine.final opCall (new size file) ops).1.totalLogged = (acceptedRows ops).length := by
  induction ops using List.reverseRecOn with
  | nil => rfl
  | append_singleton ops op ih =>
    rw [Machine.final_concat, (opCall_counts _ op).2, ih, parser_final, acceptedRows_concat,
      List.length_append]

/-! ## The first `close` -/

/-- The operation is a `close`. -/
def LoggerOp.isClose : LoggerOp R → Bool
  | .close _ => true
  | _ => false

/-- The operations before the first `close`, and those from it on. -/
def beforeClose (ops : List (LoggerOp R)) : List (LoggerOp R) :=
  ops.takeWhile fun op => !op.isClose

def fromClose (ops : List (LoggerOp R)) : List (LoggerOp R) :=
  ops.dropWhile fun op => !op.isClose

omit [PyFloat R] in
theorem beforeClose_append_fromClose (ops : List (LoggerOp R)) :
    beforeClose ops ++ fromClose ops = ops := List.takeWhile_append_dropWhile

omit [PyFloat R] in
/-- What is left at the first `close` begins with it. -/
theorem fromClose_cases {ops : List (LoggerOp R)} (hio : ∀ op ∈ ops, op.io = .success) :
    fromClose ops = [] ∨ ∃ post, fromClose ops = .close .success :: post := by
  induction ops with
  | nil => exact .inl rfl
  | cons op ops ih =>
    rw [List.forall_mem_cons] at hio
    cases op with
    | log call => exact ih hio.2
    | flush io => exact ih hio.2
    | close io =>
      obtain rfl : io = .success := hio.1
      exact .inr ⟨ops, rfl⟩

omit [PyFloat R] in
/-- Operations without a `close` whose writes succeed are those of a session. -/
theorem exists_sessionCalls {ops : List (LoggerOp R)} (hio : ∀ op ∈ ops, op.io = .success)
    (hopen : ∀ op ∈ ops, op.isClose = false) :
    ∃ calls : List (SessionCall R), ops = calls.map SessionCall.op := by
  induction ops with
  | nil => exact ⟨[], rfl⟩
  | cons op ops ih =>
    rw [List.forall_mem_cons] at hio hopen
    obtain ⟨calls, rfl⟩ := ih hio.2 hopen.2
    cases op with
    | log call =>
      obtain ⟨frame, label, io⟩ := call
      obtain rfl : io = .success := hio.1
      exact ⟨.log frame label :: calls, rfl⟩
    | flush io =>
      obtain rfl : io = .success := hio.1
      exact ⟨.flush :: calls, rfl⟩
    | close io => cases hopen.1

/-- A `close` returns when its write succeeds. -/
theorem isOk_close_success (s : CSVTelemetryLogger R × CsvFile) :
    (opCall s (.close .success)).1.isOk := by
  have heffect := flush_effect .success s
  unfold opCall CSVTelemetryLogger.close
  dsimp only
  generalize CSVTelemetryLogger.flush .success s = flushed at heffect ⊢
  obtain ⟨out, s'⟩ := flushed
  cases out with
  | ok _ => rfl
  | error e =>
    cases heffect with
    | failed _ _ hne _ _ _ => exact absurd rfl hne

/-- After operations without a `close` and then a `close`, the handle is gone and the
accepted rows are in the file. -/
theorem close_after_session (size : ℤ) (file : CsvFile) {ops : List (LoggerOp R)}
    (hio : ∀ op ∈ ops, op.io = .success) (hopen : ∀ op ∈ ops, op.isClose = false) :
    (Machine.final opCall (new size file) (ops ++ [.close .success])).1.fileOpen = false ∧
      (Machine.final opCall (new size file) (ops ++ [.close .success])).2 =
        (new size file : CSVTelemetryLogger R × CsvFile).2 ++ (acceptedRows ops).map csvRow := by
  obtain ⟨calls, rfl⟩ := exists_sessionCalls hio hopen
  rw [Machine.final_concat]
  exact ⟨fileOpen_of_close (isOk_close_success _),
    (sessionInv_after ⟨size, calls⟩ file calls).close.1⟩

/-- **The file of a closed logger** has the rows accepted before the first `close`. -/
theorem final_file (size : ℤ) (file : CsvFile) {ops : List (LoggerOp R)}
    (hio : ∀ op ∈ ops, op.io = .success) :
    (Machine.final opCall (new size file) (ops ++ [.close .success])).2 =
      (new size file : CSVTelemetryLogger R × CsvFile).2 ++
        (acceptedRows (beforeClose ops)).map csvRow := by
  have hbefore : ∀ op ∈ beforeClose ops, op.isClose = false := by
    intro op hop
    have hnot := List.mem_takeWhile_imp hop
    rwa [Bool.not_eq_true'] at hnot
  have hsub : ∀ op ∈ beforeClose ops, op.io = .success := fun op hop =>
    hio op ((List.takeWhile_prefix _).subset hop)
  obtain ⟨hclosed, hfile⟩ := close_after_session size file hsub hbefore
  have hops := beforeClose_append_fromClose ops
  obtain hnone | ⟨post, hpost⟩ := fromClose_cases hio
  · rw [hnone, List.append_nil] at hops
    rw [hops] at hfile ⊢
    exact hfile
  · have hsplit : ops ++ [LoggerOp.close .success] =
        (beforeClose ops ++ [.close .success]) ++ (post ++ [.close .success]) := by
      rw [hpost] at hops
      conv_lhs => rw [← hops]
      simp
    rw [hsplit, Machine.final_append, final_closed hclosed, hfile]

/-! ## Rows that are lost -/

/-- A frame whose signals decode is logged after the first `close`. -/
def LogsAfterClose (ops : List (LoggerOp R)) : Prop :=
  ∃ call, .log call ∈ fromClose ops ∧ call.frame.Decodes

theorem acceptRows_eq_nil_iff (parser : CANTelemetryParser R) (op : LoggerOp R) :
    (acceptRows parser op).1 = [] ↔ ∀ call, op = .log call → ¬ call.frame.Decodes := by
  cases op with
  | log call =>
    constructor
    · intro hnil call' hcall hdec
      cases hcall
      obtain ⟨row, hrow, _⟩ := acceptRows_log parser hdec
      rw [hnil] at hrow
      cases hrow
    · intro hnot
      obtain ⟨signals, hsignals, _⟩ | ⟨e, _, hout⟩ := parser.parseFrame_cases call.frame
      · exact absurd (isOk_iff.mpr ⟨signals, hsignals⟩) (hnot call rfl)
      · rw [acceptRows, hout]
  | flush io => exact iff_of_true rfl fun call hcall => by cases hcall
  | close io => exact iff_of_true rfl fun call hcall => by cases hcall

theorem outputs_acceptRows_eq_nil_iff (parser : CANTelemetryParser R) (ops : List (LoggerOp R)) :
    (Machine.outputs acceptRows parser ops).flatten = [] ↔
      ∀ call, .log call ∈ ops → ¬ call.frame.Decodes := by
  induction ops generalizing parser with
  | nil => simp
  | cons op ops ih =>
    rw [Machine.outputs_cons, List.flatten_cons, List.append_eq_nil_iff, ih,
      acceptRows_eq_nil_iff]
    constructor
    · rintro ⟨hop, hops⟩ call hcall
      obtain hcall | hcall := List.mem_cons.mp hcall
      · exact hop call hcall.symm
      · exact hops call hcall
    · intro hall
      exact ⟨fun call hop => hall call (List.mem_cons.mpr (.inl hop.symm)),
        fun call hcall => hall call (List.mem_cons_of_mem _ hcall)⟩

/-- The rows accepted from the first `close` on. -/
theorem acceptedRows_eq_append (ops : List (LoggerOp R)) :
    acceptedRows ops = acceptedRows (beforeClose ops) ++
      (Machine.outputs acceptRows (parserAfter (beforeClose ops)) (fromClose ops)).flatten := by
  rw [parserAfter, acceptedRows, acceptedRows, ← List.flatten_append, ← Machine.outputs_append,
    beforeClose_append_fromClose]

/-- **Rows and counter.** After a last `close`, with all writes succeeding, as many rows
have been added to the file as were counted exactly when no frame with a row was logged
after the first `close`. The file has the rows accepted before it. -/
theorem rows_added_iff (size : ℤ) (file : CsvFile) (ops : List (LoggerOp R))
    (hio : ∀ op ∈ ops, op.io = .success) :
    let head := (new size file : CSVTelemetryLogger R × CsvFile).2
    let s := Machine.final opCall (new size file) (ops ++ [.close .success])
    s.2 = head ++ (acceptedRows (beforeClose ops)).map csvRow ∧
      (s.2.length = head.length + s.1.totalLogged ↔ ¬ LogsAfterClose ops) := by
  dsimp only
  have htotal := final_totalLogged (R := R) size file (ops ++ [.close .success])
  have hclose : acceptedRows (ops ++ [.close .success]) = acceptedRows ops := by
    rw [acceptedRows_concat]
    exact List.append_nil _
  rw [hclose, acceptedRows_eq_append, List.length_append] at htotal
  refine ⟨final_file size file hio, ?_⟩
  have hlost := outputs_acceptRows_eq_nil_iff (parserAfter (beforeClose ops)) (fromClose ops)
  have hnone : ¬ LogsAfterClose ops ↔ ∀ call, .log call ∈ fromClose ops → ¬ call.frame.Decodes := by
    rw [LogsAfterClose]
    push Not
    rfl
  rw [final_file size file hio, htotal, List.length_append, List.length_map, hnone, ← hlost,
    ← List.length_eq_zero_iff]
  omega

/-- A door frame is logged, the logger is closed, and the frame is logged once more. -/
def doorFrame : CANFrame ℚ := CANFrame.new 0 canIdBodyDoors [255, 0, 1] none false false false (some 1)

def logDoor : LoggerOp ℚ := .log ⟨doorFrame, "NORMAL", .success⟩

theorem rows_added_door :
    let s := Machine.final opCall (new 100 []) ([logDoor, .close .success] ++ [.close .success])
    s.2 = [csvFieldnames] ++ (acceptedRows [logDoor]).map csvRow :=
  (rows_added_iff 100 [] [logDoor, .close .success] (by decide)).1

/-- The second row is counted and never written. -/
theorem row_lost_after_close : ¬ ∀ (size : ℤ) (file : CsvFile) (ops : List (LoggerOp ℚ)),
    (∀ op ∈ ops, op.io = .success) →
      (Machine.final opCall (new size file) (ops ++ [.close .success])).2.length =
        (new size file : CSVTelemetryLogger ℚ × CsvFile).2.length +
          (Machine.final opCall (new size file) (ops ++ [.close .success])).1.totalLogged := by
  intro hall
  have hlengths := hall 100 [] [logDoor, .close .success, logDoor] (by decide)
  revert hlengths
  decide +kernel

end CSVTelemetryLogger

end CanSentinel
