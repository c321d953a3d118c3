import CanSentinel.Lib.WriteBehind
import CanSentinel.Logger.Operations

/-!
# The CSV logger under threads

`log_frame` parses without a lock, then appends its row and, when the buffer is full,
flushes it under `_lock`. The public `flush` writes and clears the buffer without the
lock.

- `SharedLogger.step`: one thread parses, appends, writes or clears.
- `Ledger`: the logger keeps the books of a write-behind buffer whose items are the
  numbers of the logged rows.
- `rows_written_once_iff`: after the final `close` every logged row is in the file
  exactly once if and only if no append and no write fell between another thread's
  write and its clear.
-/

namespace CanSentinel

variable {ι R : Type} [DecidableEq ι] [PyFloat R]

open CSVTelemetryLogger

/-- A parsed frame and its label, as `log_frame` holds them. -/
structure LogEntry (R : Type) where
  parsed : ParsedTelemetry R
  label : String

/-- The row of an entry. -/
def LogEntry.row (entry : LogEntry R) : Row := labelledRow entry.parsed entry.label

/-- Where a thread stands: outside the logger; in `log_frame` with its parsed frame,
before the lock; in `log_frame` with the lock, about to flush a full buffer; or in
`flush`, its rows written and the buffer not yet cleared, with or without the lock. -/
inductive Stage (R : Type) where
  | idle
  | parsed (entry : LogEntry R)
  | full
  | wrote (locked : Bool)

/-- The thread stands between the write and the clear of a flush. -/
def Stage.isWrote : Stage R → Bool
  | .wrote _ => true
  | _ => false

/-- The thread is outside the logger. -/
def Stage.isIdle : Stage R → Bool
  | .idle => true
  | _ => false

omit [PyFloat R] in
theorem Stage.eq_idle_of_isIdle {stage : Stage R} (h : stage.isIdle = true) : stage = .idle := by
  cases stage with
  | idle => rfl
  | _ => cases h

/-- A step of a thread. -/
inductive LogEvent (ι R : Type) where
  /-- `log_frame` is called and parses the frame -/
  | parse (i : ι) (frame : CANFrame R) (label : String)
  /-- `log_frame` takes the lock and appends its row -/
  | append (i : ι)
  /-- the flush of `log_frame` tests and writes the buffer -/
  | write (i : ι)
  /-- `flush` is called, and tests and writes the buffer -/
  | flush (i : ι)
  /-- a flush clears the buffer -/
  | clear (i : ι)

/-- A logger, its file and the threads that use it. `logged`, `buffered` and `written`
are the entries appended so far, and the numbers of those whose rows were put into the
buffer and into the file; the program does not keep them. -/
structure SharedLogger (ι R : Type) where
  logger : CSVTelemetryLogger R
  file : CsvFile
  lock : Option ι
  stages : ι → Stage R
  logged : List (LogEntry R)
  buffered : List ℕ
  written : List ℕ

namespace SharedLogger

/-- A fresh logger that no thread has called. -/
def init (bufferSize : ℤ) (file : CsvFile) : SharedLogger ι R :=
  let (logger, file) := CSVTelemetryLogger.new bufferSize file
  ⟨logger, file, none, fun _ => .idle, [], [], []⟩

/-- `parse_frame`, without the lock: when it raises, so does `log_frame`. -/
def parseFrame (s : SharedLogger ι R) (i : ι) (frame : CANFrame R) (label : String) :
    SharedLogger ι R :=
  match s.logger.parser.parseFrame frame with
  | (.ok parsed, parser) => { s with
      logger := { s.logger with parser := parser }
      stages := Function.update s.stages i (.parsed ⟨parsed, label⟩) }
  | (.error _, parser) => { s with logger := { s.logger with parser := parser } }

/-- The locked section of `log_frame` up to its test: it keeps the lock if the buffer
is full. -/
def appendRow (s : SharedLogger ι R) (i : ι) (entry : LogEntry R) : SharedLogger ι R :=
  let logger := bufferRow s.logger entry.row
  let isFull : Bool := logger.bufferSize ≤ (logger.buffer.length : ℤ)
  { s with
    logger := logger
    lock := if isFull then some i else none
    stages := Function.update s.stages i (if isFull then .full else .idle)
    logged := s.logged ++ [entry]
    buffered := s.buffered ++ [s.logged.length] }

/-- The lock after a flush: `log_frame` gives it back. -/
def release (s : SharedLogger ι R) (locked : Bool) : Option ι := if locked then none else s.lock

/-- A flush up to its writes; with nothing to write it returns. -/
def writeRows (s : SharedLogger ι R) (i : ι) (locked : Bool) : SharedLogger ι R :=
  if s.logger.fileOpen = false ∨ s.logger.buffer = [] then { s with
    lock := s.release locked
    stages := Function.update s.stages i .idle }
  else { s with
    file := s.file ++ s.logger.buffer.map csvRow
    stages := Function.update s.stages i (.wrote locked)
    written := s.written ++ s.buffered }

/-- The rest of a flush. -/
def clearRows (s : SharedLogger ι R) (i : ι) (locked : Bool) : SharedLogger ι R :=
  { s with
    logger := { s.logger with buffer := [] }
    lock := s.release locked
    stages := Function.update s.stages i .idle
    buffered := [] }

/-- One step of one thread; `none` when the thread is not at that point, or waits for
the lock. -/
def step (s : SharedLogger ι R) : LogEvent ι R → Option (SharedLogger ι R)
  | .parse i frame label =>
    match s.stages i with
    | .idle => some (s.parseFrame i frame label)
    | _ => none
  | .append i =>
    match s.stages i with
    | .parsed entry => if s.lock = none then some (s.appendRow i entry) else none
    | _ => none
  | .write i =>
    match s.stages i with
    | .full => some (s.writeRows i true)
    | _ => none
  | .flush i =>
    match s.stages i with
    | .idle => some (s.writeRows i false)
    | _ => none
  | .clear i =>
    match s.stages i with
    | .wrote locked => some (s.clearRows i locked)
    | _ => none

/-- What a step can do. -/
inductive Step (s : SharedLogger ι R) : LogEvent ι R → SharedLogger ι R → Prop
  | parse (i : ι) (frame : CANFrame R) (label : String) : s.stages i = .idle →
      Step s (.parse i frame label) (s.parseFrame i frame label)
  | append (i : ι) (entry : LogEntry R) : s.stages i = .parsed entry → s.lock = none →
      Step s (.append i) (s.appendRow i entry)
  | write (i : ι) : s.stages i = .full → Step s (.write i) (s.writeRows i true)
  | flush (i : ι) : s.stages i = .idle → Step s (.flush i) (s.writeRows i false)
  | clear (i : ι) (locked : Bool) : s.stages i = .wrote locked →
      Step s (.clear i) (s.clearRows i locked)

/-- **Inversion of a step.** -/
theorem step_of_eq_some {s s' : SharedLogger ι R} {e : LogEvent ι R} (h : s.step e = some s') :
    Step s e s' := by
  cases e with
  | parse i frame label =>
    cases hi : s.stages i <;> rw [step, hi] at h <;> cases h
    exact .parse i frame label hi
  | append i =>
    cases hi : s.stages i with
    | parsed entry =>
      simp only [step, hi] at h
      by_cases hlock : s.lock = none
      · rw [if_pos hlock] at h
        cases h
        exact .append i entry hi hlock
      · rw [if_neg hlock] at h
        cases h
    | _ => rw [step, hi] at h; cases h
  | write i =>
    cases hi : s.stages i <;> rw [step, hi] at h <;> cases h
    exact .write i hi
  | flush i =>
    cases hi : s.stages i <;> rw [step, hi] at h <;> cases h
    exact .flush i hi
  | clear i =>
    cases hi : s.stages i <;> rw [step, hi] at h <;> cases h
    exact .clear i _ hi

/-! ## The books -/

/-- The row of the `k`-th logged entry. -/
def rowAt (s : SharedLogger ι R) (k : ℕ) : Row := ((s.logged[k]?).map LogEntry.row).getD []

/-- The write-behind buffer a logger keeps: its items are the numbers of the rows. -/
def books (s : SharedLogger ι R) : WriteBehind ι :=
  ⟨s.logged.length, s.buffered, s.written, fun i => (s.stages i).isWrote⟩

/-- The books agree with the buffer and the file, which began with `head`. -/
structure Ledger (head : CsvFile) (s : SharedLogger ι R) : Prop where
  fileOpen : s.logger.fileOpen = true
  buffer : s.logger.buffer = s.buffered.map s.rowAt
  file : s.file = head ++ s.written.map fun k => csvRow (s.rowAt k)
  buffered_lt : ∀ k ∈ s.buffered, k < s.logged.length
  written_lt : ∀ k ∈ s.written, k < s.logged.length

omit [DecidableEq ι] in
theorem ledger_init (bufferSize : ℤ) (file : CsvFile) :
    Ledger (CSVTelemetryLogger.new bufferSize file : CSVTelemetryLogger R × CsvFile).2
      (init bufferSize file : SharedLogger ι R) where
  fileOpen := rfl
  buffer := rfl
  file := (List.append_nil _).symm
  buffered_lt := by
    intro k hk
    cases hk
  written_lt := by
    intro k hk
    cases hk

/-- Appending does not change the rows before. -/
theorem rowAt_appendRow (s : SharedLogger ι R) (i : ι) (entry : LogEntry R) {k : ℕ}
    (hk : k < s.logged.length) : (s.appendRow i entry).rowAt k = s.rowAt k := by
  show (((s.logged ++ [entry])[k]?).map LogEntry.row).getD [] = _
  rw [List.getElem?_append_left hk, rowAt]

theorem rowAt_appendRow_self (s : SharedLogger ι R) (i : ι) (entry : LogEntry R) :
    (s.appendRow i entry).rowAt s.logged.length = entry.row := by
  show (((s.logged ++ [entry])[s.logged.length]?).map LogEntry.row).getD [] = _
  rw [List.getElem?_concat_length]
  rfl

variable {head : CsvFile} {s s' : SharedLogger ι R} {e : LogEvent ι R}

theorem Ledger.writeRows (h : Ledger head s) (i : ι) (locked : Bool) :
    Ledger head (s.writeRows i locked) := by
  unfold SharedLogger.writeRows
  by_cases hidle : s.logger.fileOpen = false ∨ s.logger.buffer = []
  · rw [if_pos hidle]
    exact ⟨h.fileOpen, h.buffer, h.file, h.buffered_lt, h.written_lt⟩
  · rw [if_neg hidle]
    refine ⟨h.fileOpen, h.buffer, ?_, h.buffered_lt, ?_⟩
    · show s.file ++ s.logger.buffer.map csvRow =
        head ++ (s.written ++ s.buffered).map fun k => csvRow (s.rowAt k)
      rw [h.file, h.buffer, List.map_append, List.map_map, List.append_assoc]
      rfl
    · exact List.forall_mem_append.mpr ⟨h.written_lt, h.buffered_lt⟩

/-- A step keeps the books. -/
theorem Ledger.step (h : Ledger head s) (hstep : Step s e s') : Ledger head s' := by
  cases hstep with
  | parse i frame label _ =>
    unfold parseFrame
    cases hparse : s.logger.parser.parseFrame frame with
    | mk out parser =>
      cases out with
      | ok parsed => exact ⟨h.fileOpen, h.buffer, h.file, h.buffered_lt, h.written_lt⟩
      | error e => exact ⟨h.fileOpen, h.buffer, h.file, h.buffered_lt, h.written_lt⟩
  | append i entry _ _ =>
    refine ⟨h.fileOpen, ?_, ?_, ?_, ?_⟩
    · show s.logger.buffer ++ [entry.row] =
        (s.buffered ++ [s.logged.length]).map (s.appendRow i entry).rowAt
      rw [List.map_append, List.map_singleton, rowAt_appendRow_self, h.buffer]
      -- the numbers in the books are below the new one, so their rows stay
      congr 1
      refine List.map_congr_left ?_
      intro k hk
      exact (rowAt_appendRow s i entry (h.buffered_lt k hk)).symm
    · show s.file = head ++ s.written.map fun k => csvRow ((s.appendRow i entry).rowAt k)
      rw [h.file]
      congr 1
      refine List.map_congr_left ?_
      intro k hk
      rw [rowAt_appendRow s i entry (h.written_lt k hk)]
    · show ∀ k ∈ s.buffered ++ [s.logged.length], k < (s.logged ++ [entry]).length
      rw [List.length_append, List.forall_mem_append, List.forall_mem_singleton]
      exact ⟨fun k hk => Nat.lt_succ_of_lt (h.buffered_lt k hk), Nat.lt_succ_self _⟩
    · show ∀ k ∈ s.written, k < (s.logged ++ [entry]).length
      rw [List.length_append]
      exact fun k hk => Nat.lt_succ_of_lt (h.written_lt k hk)
  | write i _ => exact h.writeRows i true
  | flush i _ => exact h.writeRows i false
  | clear i locked _ =>
    -- whatever the buffer holds by now is gone; the file does not change
    refine ⟨h.fileOpen, rfl, h.file, ?_, h.written_lt⟩
    intro k hk
    cases hk

/-! ## The logger as a write-behind buffer -/

/-- What a step means for the books. -/
def action? : LogEvent ι R → Option (WriteBehind.Action ι)
  | .parse _ _ _ => none
  | .append _ => some .append
  | .write i => some (.write i)
  | .flush i => some (.write i)
  | .clear i => some (.clear i)

/-- An append, or a write of some rows, between another thread's write and its clear. -/
def Races (s : SharedLogger ι R) : LogEvent ι R → Prop
  | .append _ => ∃ j, (s.stages j).isWrote = true
  | .write _ => s.logger.buffer ≠ [] ∧ ∃ j, (s.stages j).isWrote = true
  | .flush _ => s.logger.buffer ≠ [] ∧ ∃ j, (s.stages j).isWrote = true
  | _ => False

/-- No step of the run is such. -/
def RaceFree (bufferSize : ℤ) (file : CsvFile) (es : List (LogEvent ι R)) : Prop :=
  Machine.AlongRun step (fun s e => ¬ s.Races e) (init bufferSize file) es

omit [PyFloat R] in
/-- The flushes under way when one thread moves. -/
theorem isWrote_update (i : ι) (stage : Stage R) :
    (fun j => (Function.update s.stages i stage j).isWrote) =
      Function.update (fun j => (s.stages j).isWrote) i stage.isWrote :=
  Function.comp_update Stage.isWrote s.stages i stage

omit [PyFloat R] in
theorem isWrote_update_of_eq {i : ι} {stage : Stage R}
    (h : (s.stages i).isWrote = stage.isWrote) :
    (fun j => (Function.update s.stages i stage j).isWrote) = fun j => (s.stages j).isWrote := by
  rw [isWrote_update, ← h]
  exact Function.update_eq_self i fun j => (s.stages j).isWrote

/-- **One write.** -/
theorem Ledger.books_writeRows (h : Ledger head s) {i : ι} (hi : (s.stages i).isWrote = false)
    (locked : Bool) : s.books.step (.write i) = some (s.writeRows i locked).books := by
  have hnil : s.logger.buffer = [] ↔ s.books.buffered = [] := by
    rw [h.buffer]
    exact List.map_eq_nil_iff
  have hpending : ¬ s.books.pending i = true := by
    show ¬ (s.stages i).isWrote = true
    rw [hi]
    exact Bool.false_ne_true
  rw [WriteBehind.step, if_neg hpending]
  unfold SharedLogger.writeRows
  by_cases hidle : s.logger.fileOpen = false ∨ s.logger.buffer = []
  · rw [if_pos hidle, if_pos (hnil.mp (buffer_eq_nil_of_idle h.fileOpen hidle))]
    unfold books
    rw [isWrote_update_of_eq (by rw [hi]; rfl)]
  · rw [if_neg hidle, if_neg fun hempty => hidle (.inr (hnil.mpr hempty))]
    unfold books
    rw [isWrote_update]
    rfl

/-- **Simulation.** A step of the logger is a step of its books, or none. -/
theorem Ledger.books_step (h : Ledger head s) (hstep : Step s e s') :
    (action? e = none ∧ s'.books = s.books) ∨
      ∃ a, action? e = some a ∧ s.books.step a = some s'.books := by
  cases hstep with
  | parse i frame label hi =>
    refine .inl ⟨rfl, ?_⟩
    unfold parseFrame
    cases hparse : s.logger.parser.parseFrame frame with
    | mk out parser =>
      cases out with
      | ok parsed =>
        unfold books
        rw [isWrote_update_of_eq (by rw [hi]; rfl)]
      | error e => rfl
  | append i entry hi _ =>
    refine .inr ⟨.append, rfl, ?_⟩
    unfold books appendRow
    dsimp only
    rw [isWrote_update_of_eq (by rw [hi]; split <;> rfl), List.length_append]
    rfl
  | write i hi => exact .inr ⟨.write i, rfl, h.books_writeRows (by rw [hi]; rfl) true⟩
  | flush i hi => exact .inr ⟨.write i, rfl, h.books_writeRows (by rw [hi]; rfl) false⟩
  | clear i locked hi =>
    refine .inr ⟨.clear i, rfl, ?_⟩
    have hpending : s.books.pending i = true := by
      show (s.stages i).isWrote = true
      rw [hi]
      rfl
    rw [WriteBehind.step, if_pos hpending]
    unfold books clearRows
    rw [isWrote_update]
    rfl

omit [DecidableEq ι] in
/-- Races of the logger are disturbances of its books. -/
theorem Ledger.disturbs_books_iff (h : Ledger head s) {a : WriteBehind.Action ι}
    (ha : action? e = some a) : s.books.Disturbs a ↔ s.Races e := by
  have hquiet : ¬ s.books.Quiet ↔ ∃ j, (s.stages j).isWrote = true := by
    show ¬ (∀ j, (s.stages j).isWrote = false) ↔ _
    rw [not_forall]
    simp only [Bool.not_eq_false]
  have hne : s.books.buffered ≠ [] ↔ s.logger.buffer ≠ [] := by
    rw [h.buffer]
    exact (List.map_eq_nil_iff.not).symm
  cases e with
  | parse _ _ _ => cases ha
  | append _ => cases ha; exact hquiet
  | write _ => cases ha; exact and_congr hne hquiet
  | flush _ => cases ha; exact and_congr hne hquiet
  | clear _ => cases ha; exact Iff.rfl

/-- The books along a run. -/
theorem books_run {bufferSize : ℤ} {file : CsvFile} {es : List (LogEvent ι R)}
    (hrun : Machine.run SharedLogger.step (init bufferSize file) es = some s) :
    Ledger (CSVTelemetryLogger.new bufferSize file : CSVTelemetryLogger R × CsvFile).2 s ∧
      Machine.run WriteBehind.step WriteBehind.init (es.filterMap action?) = some s.books ∧
      (WriteBehind.Undisturbed (es.filterMap action?) ↔ RaceFree bufferSize file es) := by
  refine Machine.run_induction (I := fun es (s : SharedLogger ι R) => Ledger _ s ∧
    Machine.run WriteBehind.step WriteBehind.init (es.filterMap action?) = some s.books ∧
    (WriteBehind.Undisturbed (es.filterMap action?) ↔ RaceFree bufferSize file es)) ?_ ?_ hrun
  · refine ⟨ledger_init bufferSize file, rfl, iff_of_true ?_ ?_⟩
    · exact Machine.alongRun_nil _ _ _
    · exact Machine.alongRun_nil _ _ _
  · rintro pre s e s' hpre ⟨hledger, hbooks, hiff⟩ hstep
    have hstep := step_of_eq_some hstep
    refine ⟨hledger.step hstep, ?_⟩
    rw [RaceFree, Machine.alongRun_concat _ hpre, ← RaceFree, ← hiff, List.filterMap_append]
    rcases hledger.books_step hstep with ⟨hnone, hsame⟩ | ⟨a, ha, hmove⟩
    · -- a parse is no action of the buffer, and no race
      have hraces : ¬ s.Races e := by
        cases e with
        | parse _ _ _ => exact id
        | _ => cases hnone
      rw [List.filterMap_cons_none hnone, List.filterMap_nil, List.append_nil, hsame]
      exact ⟨hbooks, (and_iff_left hraces).symm⟩
    · rw [List.filterMap_cons_some ha, List.filterMap_nil, WriteBehind.Undisturbed,
        Machine.alongRun_concat _ hbooks, hledger.disturbs_books_iff ha]
      refine ⟨?_, Iff.rfl⟩
      rw [Machine.run_concat, hbooks]
      exact hmove

/-! ## After the last call -/

section Finished

variable {bufferSize : ℤ} {file : CsvFile} {es : List (LogEvent ι R)}

omit [DecidableEq ι] in
/-- The file after `close`: the numbered rows that were written, then those left in the
buffer. -/
theorem close_file_eq (h : Ledger head s) :
    (close .success (s.logger, s.file)).2.2 =
      head ++ (s.written ++ s.buffered).map fun k => csvRow (s.rowAt k) := by
  rw [close_success_file h.fileOpen, h.file, h.buffer, List.map_append, List.map_map,
    List.append_assoc]
  rfl

omit [DecidableEq ι] in
/-- All numbers in order stand for all logged rows in order. -/
theorem map_rowAt_range (s : SharedLogger ι R) :
    ((List.range s.logged.length).map fun k => csvRow (s.rowAt k)) =
      s.logged.map fun entry => csvRow entry.row := by
  refine List.ext_getElem (by simp) ?_
  intro k hk hk'
  rw [List.length_map] at hk'
  simp [rowAt, hk']

/-- What the books say when all calls have finished. -/
theorem books_finished (hrun : Machine.run SharedLogger.step (init bufferSize file) es = some s)
    (hidle : ∀ i, s.stages i = .idle) :
    ((∀ k < s.logged.length, (s.written ++ s.buffered).count k = 1) ↔
        RaceFree bufferSize file es) ∧
      (RaceFree bufferSize file es → s.written ++ s.buffered = List.range s.logged.length) := by
  obtain ⟨_, hbooks, hiff⟩ := books_run hrun
  have hquiet : s.books.Quiet := by
    intro i
    show (s.stages i).isWrote = false
    rw [hidle i]
    rfl
  rw [← hiff]
  exact WriteBehind.exactly_once_iff hbooks hquiet

/-- **When every logged row is written once.** For every run of any threads in which
all calls have finished, the file after `close` consists of its first rows and rows of
logged entries, and every logged row is among them exactly once if and only if no
append and no write of buffered rows fell between another thread's write and its clear.
They are then in the order they were logged. -/
theorem rows_written_once_iff (bufferSize : ℤ) (file : CsvFile) (es : List (LogEvent ι R))
    (s : SharedLogger ι R)
    (hrun : Machine.run SharedLogger.step (init bufferSize file) es = some s)
    (hidle : ∀ i, s.stages i = .idle) :
    let head := (CSVTelemetryLogger.new bufferSize file : CSVTelemetryLogger R × CsvFile).2
    let closed := (close .success (s.logger, s.file)).2.2
    closed = head ++ (s.written ++ s.buffered).map (fun k => csvRow (s.rowAt k)) ∧
      ((∀ k < s.logged.length, (s.written ++ s.buffered).count k = 1) ↔
        RaceFree bufferSize file es) ∧
      (RaceFree bufferSize file es →
        closed = head ++ s.logged.map fun entry => csvRow entry.row) := by
  have hclosed := close_file_eq (books_run hrun).1
  obtain ⟨honce, hrange⟩ := books_finished hrun hidle
  refine ⟨hclosed, honce, ?_⟩
  intro hfree
  rw [hclosed, hrange hfree, map_rowAt_range]

end Finished

/-- A frame of the body ECU at time `t`. -/
def bodyFrame (t : ℚ) : CANFrame ℚ :=
  CANFrame.new 0 canIdBodyDoors [255, 0, 1] none false false false (some t)

/-- Two threads. -/
inductive Worker where
  | first
  | second
deriving DecidableEq

instance : Fintype Worker where
  elems := {.first, .second}
  complete := by
    intro worker
    cases worker <;> decide

/-- Two calls of `log_frame` one after the other, the second one in another thread. -/
def loggedInTurn : List (LogEvent Worker ℚ) :=
  [.parse .first (bodyFrame 1) "NORMAL", .append .first, .parse .second (bodyFrame 2) "NORMAL",
    .append .second, .flush .first, .clear .first]

/-- The second thread logs a frame while the first is between the write and the clear of
`flush`. -/
def loggedDuringFlush : List (LogEvent Worker ℚ) :=
  [.parse .first (bodyFrame 1) "NORMAL", .append .first, .parse .second (bodyFrame 2) "NORMAL",
    .flush .first, .append .second, .clear .first]

theorem rows_written_once_iff_inTurn :
    ∃ s : SharedLogger Worker ℚ,
      Machine.run SharedLogger.step (init 100 []) loggedInTurn = some s ∧
        ((∀ k < s.logged.length, (s.written ++ s.buffered).count k = 1) ↔
          RaceFree 100 [] loggedInTurn) := by
  have hsome : ((Machine.run SharedLogger.step (init 100 []) loggedInTurn :
      Option (SharedLogger Worker ℚ)).any fun s => decide (∀ i, (s.stages i).isIdle = true)) =
        true := by decide +kernel
  obtain ⟨s, hs, hidle⟩ := (Option.any_eq_true _ _).mp hsome
  rw [decide_eq_true_eq] at hidle
  exact ⟨s, hs, (rows_written_once_iff 100 [] loggedInTurn s hs
    fun i => Stage.eq_idle_of_isIdle (hidle i)).2.1⟩

/-- All calls have finished, two rows were logged, and the second is lost. -/
theorem row_lost_during_flush :
    (Machine.run SharedLogger.step (init 100 []) loggedDuringFlush).map
        (fun s : SharedLogger Worker ℚ =>
          (decide (∀ i, (s.stages i).isIdle = true), s.logged.length,
            (s.written ++ s.buffered).count 1,
            (close .success (s.logger, s.file)).2.2.length)) = some (true, 2, 0, 2) := by
  decide +kernel

end SharedLogger

end CanSentinel
