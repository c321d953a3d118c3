import CanSentinel.Logger.Operations

/-!
# Failed flushes

A flush that raises leaves every buffered row in the buffer, and in the file as many
of them as it had written. The next flush writes the whole buffer again.

- `Batch`: rows that went to the file together, with what earlier failed attempts at
  them had left there.
- `RetryInv`: an open file is a sequence of batches and the remains of the failed
  attempts at the rows still in the buffer.
- `flush_rewrites_batches`: after a flush or a `close` that returns, every accepted
  row is in the file, and exactly once when no failed attempt left a row behind.
-/

namespace CanSentinel.CSVTelemetryLogger

variable {R : Type} [PyFloat R]

/-! ## Batches -/

/-- Rows written by one flush that returned, and the rows that the failed attempts
before it had already written. -/
structure Batch where
  rows : List Row
  failed : List CsvFile
  prefixes : ∀ part ∈ failed, part <+: rows.map csvRow

/-- What a batch leaves in the file. -/
def Batch.lines (batch : Batch) : CsvFile := batch.failed.flatten ++ batch.rows.map csvRow

theorem length_flatMap_lines (batches : List Batch) :
    (batches.flatMap Batch.lines).length =
      (batches.flatMap Batch.failed).flatten.length + (batches.flatMap Batch.rows).length := by
  induction batches with
  | nil => rfl
  | cons batch batches ih =>
    simp only [List.flatMap_cons, List.flatten_append, List.length_append, ih, Batch.lines,
      List.length_map]
    omega

/-- The file holds the rows and nothing else exactly when nothing was left behind. -/
theorem flatMap_lines_eq_iff (batches : List Batch) :
    batches.flatMap Batch.lines = (batches.flatMap Batch.rows).map csvRow ↔
      (batches.flatMap Batch.failed).flatten = [] := by
  constructor
  · intro h
    have hlen := congrArg List.length h
    rw [length_flatMap_lines, List.length_map] at hlen
    exact List.eq_nil_of_length_eq_zero (by omega)
  · intro h
    induction batches with
    | nil => rfl
    | cons batch batches ih =>
      rw [List.flatMap_cons, List.flatten_append, List.append_eq_nil_iff] at h
      rw [List.flatMap_cons, List.flatMap_cons, List.map_append, ih h.2, Batch.lines, h.1,
        List.nil_append]

/-! ## The invariant -/

/-- No call that raises changes the file. -/
def FailuresLeaveNoRows (s : CSVTelemetryLogger R × CsvFile) (ops : List (LoggerOp R)) : Prop :=
  ∀ pre op post, ops = pre ++ op :: post →
    (opCall (Machine.final opCall s pre) op).1.isOk = false →
      (opCall (Machine.final opCall s pre) op).2.2 = (Machine.final opCall s pre).2

/-- After the operations `ops` on a file that began with `head` and is still open:
`parts` is what the failed attempts at the current buffer have written; `clean` says
that no raising call has changed the file. -/
structure RetryInv (head : CsvFile) (ops : List (LoggerOp R)) (clean : Prop)
    (s : CSVTelemetryLogger R × CsvFile) (batches : List Batch) (parts : List CsvFile) :
    Prop where
  parser : s.1.parser = parserAfter ops
  rows : acceptedRows ops = batches.flatMap Batch.rows ++ s.1.buffer
  file : s.2 = head ++ (batches.flatMap Batch.lines ++ parts.flatten)
  prefixes : ∀ part ∈ parts, part <+: s.1.buffer.map csvRow
  clean : clean ↔ (batches.flatMap Batch.failed).flatten = [] ∧ parts.flatten = []

section Inv

variable {head : CsvFile} {ops : List (LoggerOp R)} {clean : Prop}
  {s s' : CSVTelemetryLogger R × CsvFile} {batches : List Batch} {parts : List CsvFile}

/-- Buffering what an operation accepts. -/
theorem RetryInv.accept (h : RetryInv head ops clean s batches parts) (op : LoggerOp R) :
    RetryInv head (ops ++ [op]) clean (s.1.accept op, s.2) batches parts where
  parser := by
    rw [parserAfter_concat, ← h.parser]
    rfl
  rows := by
    rw [acceptedRows_concat, h.rows, ← h.parser, List.append_assoc]
    rfl
  file := h.file
  prefixes := by
    intro part hpart
    refine (h.prefixes part hpart).trans ?_
    rw [CSVTelemetryLogger.accept, List.map_append]
    exact List.prefix_append _ _
  clean := h.clean

/-- The buffer as a batch of its own, once it is written. -/
theorem RetryInv.moved (h : RetryInv head ops clean s batches parts) :
    RetryInv head ops clean ({ s.1 with buffer := [] }, s.2 ++ s.1.buffer.map csvRow)
      (batches ++ [⟨s.1.buffer, parts, h.prefixes⟩]) [] where
  parser := h.parser
  rows := by
    rw [h.rows, List.flatMap_append, List.flatMap_singleton, List.append_nil]
  file := by
    rw [h.file, List.flatMap_append, List.flatMap_singleton, List.flatten_nil, List.append_nil,
      Batch.lines, List.append_assoc, List.append_assoc]
  prefixes := by
    intro part hpart
    cases hpart
  clean := by
    refine h.clean.trans ?_
    rw [List.flatMap_append, List.flatMap_singleton, List.flatten_append, List.append_eq_nil_iff]
    exact (and_iff_left rfl).symm

/-- A failed attempt. -/
theorem RetryInv.failed (h : RetryInv head ops clean s batches parts) {part : CsvFile}
    (hpart : part <+: s.1.buffer.map csvRow) :
    RetryInv head ops (clean ∧ s.2 ++ part = s.2) (s.1, s.2 ++ part) batches
      (parts ++ [part]) where
  parser := h.parser
  rows := h.rows
  file := by
    rw [h.file, List.flatten_append, List.flatten_singleton, List.append_assoc, List.append_assoc]
  prefixes := by
    rw [List.forall_mem_append, List.forall_mem_singleton]
    exact ⟨h.prefixes, hpart⟩
  clean := by
    rw [h.clean, List.flatten_append, List.flatten_singleton, List.append_eq_nil_iff,
      List.append_right_eq_self, and_assoc]

theorem RetryInv.congr (h : RetryInv head ops clean s batches parts) {clean' : Prop}
    (hiff : clean' ↔ clean) : RetryInv head ops clean' s batches parts :=
  { h with clean := hiff.trans h.clean }

/-- A flush: it raises and leaves some rows, or returns with an empty buffer. -/
theorem RetryInv.flush (h : RetryInv head ops clean s batches parts) {io : WriteOutcome}
    {out : Except PyError Unit} (heffect : FlushEffect io s out s')
    (hopen : s.1.fileOpen = true) :
    s'.1.fileOpen = true ∧ (out.isOk = true → s'.1.buffer = []) ∧ ∃ batches' parts',
      RetryInv head ops (clean ∧ (out.isOk = false → s'.2 = s.2)) s' batches' parts' := by
  cases heffect with
  | idle hidle =>
    exact ⟨hopen, fun _ => buffer_eq_nil_of_idle hopen hidle, batches, parts,
      h.congr (and_iff_left fun _ => rfl)⟩
  | moved _ =>
    refine ⟨hopen, fun _ => rfl, _, [], h.moved.congr (and_iff_left ?_)⟩
    intro hraised
    cases hraised
  | failed e part _ _ _ hpart =>
    refine ⟨hopen, ?_, batches, parts ++ [part], (h.failed hpart).congr (and_congr_right' ?_)⟩
    · intro hok
      cases hok
    · exact ⟨fun himp => himp rfl, fun heq _ => heq⟩

/-- After a flush that returns the file is made of whole batches. -/
theorem RetryInv.returned (h : RetryInv head ops clean s batches parts) {io : WriteOutcome}
    (heffect : FlushEffect io s (.ok ()) s') (hopen : s.1.fileOpen = true) :
    ∃ batches' : List Batch, batches'.flatMap Batch.rows = acceptedRows ops ∧
      s'.2 = head ++ batches'.flatMap Batch.lines ∧
      (clean ↔ (batches'.flatMap Batch.failed).flatten = []) := by
  obtain ⟨_, hnil, batches', parts', h'⟩ := h.flush heffect hopen
  have hbuffer : s'.1.buffer = [] := hnil rfl
  -- prefixes of an empty buffer are empty
  have hparts : parts'.flatten = [] := by
    rw [List.flatten_eq_nil_iff]
    intro part hpart
    have hprefix := h'.prefixes part hpart
    rw [hbuffer] at hprefix
    exact List.prefix_nil.mp hprefix
  refine ⟨batches', ?_, ?_, ?_⟩
  · rw [h'.rows, hbuffer, List.append_nil]
  · rw [h'.file, hparts, List.append_nil]
  · have hclean := h'.clean
    rw [and_iff_left hparts] at hclean
    rw [← hclean]
    exact (and_iff_left fun hraised => by cases hraised).symm

/-- **The step** on a file that stays open. -/
theorem RetryInv.opCall (h : RetryInv head ops clean s batches parts)
    (hopen : s.1.fileOpen = true) (op : LoggerOp R)
    (hopen' : (opCall s op).2.1.fileOpen = true) :
    ∃ batches' parts', RetryInv head (ops ++ [op])
      (clean ∧ ((CSVTelemetryLogger.opCall s op).1.isOk = false →
        (CSVTelemetryLogger.opCall s op).2.2 = s.2))
      (CSVTelemetryLogger.opCall s op).2 batches' parts' := by
  have heffect := opCall_effect s op
  generalize (CSVTelemetryLogger.opCall s op).1.isOk = ok at heffect ⊢
  generalize (CSVTelemetryLogger.opCall s op).2 = s' at heffect hopen' ⊢
  have haccept := h.accept op
  cases heffect with
  -- a frame that cannot be decoded raises too, but before anything is written
  | kept ok _ _ => exact ⟨batches, parts, haccept.congr (and_iff_left fun _ => rfl)⟩
  | flushed heffect => exact (haccept.flush heffect hopen).2.2
  | closed _ _ => cases hopen'

/-- The invariant along every run that leaves the file open. -/
theorem retryInv_final (size : ℤ) (file : CsvFile) (ops : List (LoggerOp R))
    (hopen : (Machine.final CSVTelemetryLogger.opCall (new size file) ops).1.fileOpen = true) :
    ∃ batches parts, RetryInv (new size file : CSVTelemetryLogger R × CsvFile).2 ops
      (FailuresLeaveNoRows (new size file) ops)
      (Machine.final CSVTelemetryLogger.opCall (new size file) ops) batches parts := by
  induction ops using List.reverseRecOn with
  | nil =>
    refine ⟨[], [], rfl, rfl, (List.append_nil _).symm, ?_, iff_of_true ?_ ⟨rfl, rfl⟩⟩
    · intro part hpart
      cases hpart
    · intro pre op post hsplit
      simp at hsplit
  | append_singleton ops op ih =>
    rw [Machine.final_concat] at hopen ⊢
    -- a closed file stays closed, so it was open all along
    have hbefore : (Machine.final CSVTelemetryLogger.opCall (new size file) ops).1.fileOpen =
        true := by
      by_contra hclosed
      rw [Bool.not_eq_true] at hclosed
      exact absurd ((opCall_closed hclosed op).1.symm.trans hopen) (by decide)
    obtain ⟨batches, parts, h⟩ := ih hbefore
    obtain ⟨batches', parts', h'⟩ := h.opCall hbefore op hopen
    exact ⟨batches', parts', h'.congr Machine.forall_split_concat⟩

end Inv

/-- **A flush that returns, after any failures.** For every run of a logger whose file
is still open and every `flush` or `close` that then returns:

- the file is its first rows followed by batches, which together are the rows accepted
  so far, in order; a batch is written whole, after what failed attempts left of it;
- every accepted row is in the file exactly once, in order, if and only if no call that
  raised had changed the file;
- if the call was `close`, no later call changes the file. -/
theorem flush_rewrites_batches (size : ℤ) (file : CsvFile) (ops : List (LoggerOp R))
    (op : LoggerOp R) (hop : op.logCall? = none)
    (hopen : (Machine.final opCall (new size file) ops).1.fileOpen = true)
    (hok : (opCall (Machine.final opCall (new size file) ops) op).1.isOk) :
    let head := (new size file : CSVTelemetryLogger R × CsvFile).2
    let s := (opCall (Machine.final opCall (new size file) ops) op).2
    (∃ batches : List Batch, batches.flatMap Batch.rows = acceptedRows ops ∧
        s.2 = head ++ batches.flatMap Batch.lines) ∧
      (s.2 = head ++ (acceptedRows ops).map csvRow ↔ FailuresLeaveNoRows (new size file) ops) ∧
      (op = .close op.io → ∀ later, (Machine.final opCall s later).2 = s.2) := by
  obtain ⟨batches, parts, h⟩ := retryInv_final size file ops hopen
  generalize (new size file : CSVTelemetryLogger R × CsvFile).2 = head at h ⊢
  generalize FailuresLeaveNoRows (new size file) ops = clean at h ⊢
  generalize Machine.final opCall (new size file) ops = s at *
  -- the state the flush has left, before `close` drops the file handle
  obtain ⟨t, hflush, hfile⟩ : ∃ t, FlushEffect op.io s (.ok ()) t ∧ (opCall s op).2.2 = t.2 := by
    have haccept : (s.1.accept op, s.2) = s := by
      cases op with
      | log call => cases hop
      | flush io => rw [accept_flush]
      | close io => rw [accept_close]
    have heffect := opCall_effect s op
    generalize (opCall s op).1.isOk = ok at heffect hok
    generalize (opCall s op).2 = s' at heffect ⊢
    cases heffect with
    | kept _ hlog _ =>
      rw [hop] at hlog
      cases hlog
    | @flushed out _ heffect =>
      cases out with
      | ok _ =>
        rw [haccept] at heffect
        exact ⟨s', heffect, rfl⟩
      | error e => cases hok
    | @closed t _ heffect =>
      rw [haccept] at heffect
      exact ⟨t, heffect, rfl⟩
  obtain ⟨batches', hrows, hlines, hclean⟩ := h.returned hflush hopen
  rw [← hfile] at hlines
  refine ⟨⟨batches', hrows, hlines⟩, ?_, ?_⟩
  · rw [hlines, hclean, ← flatMap_lines_eq_iff, ← hrows, List.append_right_inj]
  · intro hclose later
    refine final_closed ?_ later
    rw [hclose] at hok ⊢
    exact fileOpen_of_close hok

/-- A door frame, logged as normal traffic. -/
def doorCall (io : WriteOutcome) : LogCall ℚ :=
  ⟨CANFrame.new 0 canIdBodyDoors [255, 0, 1] none false false false (some 1), "NORMAL", io⟩

theorem flush_rewrites_batches_door :
    let ops : List (LoggerOp ℚ) := [.log (doorCall .success), .flush (.writeError 0)]
    (opCall (Machine.final opCall (new 100 []) ops) (.flush .success)).2.2 =
        [csvFieldnames] ++ (acceptedRows ops).map csvRow ↔
      FailuresLeaveNoRows (new 100 []) ops :=
  (flush_rewrites_batches 100 [] [.log (doorCall .success), .flush (.writeError 0)]
    (.flush .success) rfl (by decide +kernel) (by decide +kernel)).2.1

/-- A flush that fails after its rows are written puts them into the file twice, and a
row logged after `close` is never written although the next flush returns. -/
theorem retried_flush_repeats_row :
    (let ops : List (LoggerOp ℚ) := [.log (doorCall .success), .flush .flushError]
      let out := opCall (Machine.final opCall (new 100 []) ops) (.flush .success)
      out.1.isOk ∧ (acceptedRows ops).length = 1 ∧
        out.2.2 = [csvFieldnames] ++ (acceptedRows ops ++ acceptedRows ops).map csvRow) ∧
      let ops : List (LoggerOp ℚ) := [.close .success, .log (doorCall .success)]
      let out := opCall (Machine.final opCall (new 100 []) ops) (.flush .success)
      out.1.isOk ∧ (acceptedRows ops).length = 1 ∧ out.2.2 = [csvFieldnames] := by
  decide +kernel

end CanSentinel.CSVTelemetryLogger
