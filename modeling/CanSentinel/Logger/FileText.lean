import CanSentinel.Lib.CsvText
import CanSentinel.Logger.Replay
import CanSentinel.Logger.Sessions

/-!
# The text of the log file

The logger as it writes characters: labels may hold commas, quotes and line ends, and the
wheel speeds in `decoded_summary` always hold commas. The logger on rows is its abstraction.

- `opCallText`, `Session.runText`: the operations and the sessions on a text.
- `opCallText_sim`: a call that returns writes the text of its rows.
- `session_text_training`: what `extract_features_from_csv` reads from the text of any
  number of sessions.
- `session_text_crash`: what `csv.reader` returns of a log that was cut at any character.
-/

namespace CanSentinel

variable {R : Type} [PyFloat R]

open CsvText (excel writeRows readText)

/-- The text of the rows of a file. -/
def render (file : CsvFile) : List Char := writeRows excel file

@[simp] theorem render_append (file rows : CsvFile) :
    render (file ++ rows) = render file ++ render rows := List.flatMap_append

theorem render_eq_nil_iff (file : CsvFile) : render file = [] ↔ file = [] := by
  cases file with
  | nil => exact ⟨fun _ => rfl, fun _ => rfl⟩
  | cons row file =>
    constructor
    · intro h
      rw [render, writeRows, List.flatMap_cons, CsvText.rowText] at h
      simp at h
    · intro h
      cases h

namespace CSVTelemetryLogger

/-- `CSVTelemetryLogger.__init__` on the text of the file. -/
def newText (bufferSize : ℤ) (text : List Char) : CSVTelemetryLogger R × List Char :=
  (⟨bufferSize, CANTelemetryParser.new, [], true, 0⟩,
    if text = [] then writeRows excel [csvFieldnames] else text)

/-- `CSVTelemetryLogger.flush`; a failing write may end within a row. -/
def flushText (io : WriteOutcome) (s : CSVTelemetryLogger R × List Char) :
    Except PyError Unit × CSVTelemetryLogger R × List Char :=
  let (self, text) := s
  if self.fileOpen = false ∨ self.buffer = [] then (.ok (), s)
  else
    let chars := writeRows excel (self.buffer.map csvRow)
    match io with
    | .success => (.ok (), ({ self with buffer := [] }, text ++ chars))
    | .writeError written =>
      (.error (.osError "No space left on device"), (self, text ++ chars.take written))
    | .flushError => (.error (.osError "No space left on device"), (self, text ++ chars))

/-- `CSVTelemetryLogger.log_frame`. -/
def logFrameText (io : WriteOutcome) (frame : CANFrame R) (label : String)
    (s : CSVTelemetryLogger R × List Char) :
    Except PyError (ParsedTelemetry R) × CSVTelemetryLogger R × List Char :=
  let (self, text) := s
  match self.parser.parseFrame frame with
  | (.error e, parser) => (.error e, ({ self with parser := parser }, text))
  | (.ok parsed, parser) =>
    let row := labelledRow parsed label
    let self := bufferRow { self with parser := parser } row
    if self.bufferSize ≤ (self.buffer.length : ℤ) then
      match flushText io (self, text) with
      | (.ok (), s) => (.ok parsed, s)
      | (.error e, s) => (.error e, s)
    else (.ok parsed, (self, text))

/-- `CSVTelemetryLogger.close`. -/
def closeText (io : WriteOutcome) (s : CSVTelemetryLogger R × List Char) :
    Except PyError Unit × CSVTelemetryLogger R × List Char :=
  match flushText io s with
  | (.ok (), (self, text)) => (.ok (), ({ self with fileOpen := false }, text))
  | (.error e, s) => (.error e, s)

/-- One operation. -/
def opCallText (s : CSVTelemetryLogger R × List Char) :
    LoggerOp R → Except PyError (Option (ParsedTelemetry R)) × CSVTelemetryLogger R × List Char
  | .log call =>
    let (out, s) := logFrameText call.io call.frame call.label s
    (out.map some, s)
  | .flush io =>
    let (out, s) := flushText io s
    (out.map fun _ => none, s)
  | .close io =>
    let (out, s) := closeText io s
    (out.map fun _ => none, s)

/-! ## The logger on rows as its abstraction -/

/-- A call on a text does what the call on its rows does: it has the same result, and if
it returns, it leaves the text of the rows. -/
def Renders {β : Type} (onText : β × CSVTelemetryLogger R × List Char)
    (onRows : β × CSVTelemetryLogger R × CsvFile) (ok : β → Bool) : Prop :=
  onText.1 = onRows.1 ∧
    (ok onRows.1 = true → onText.2 = (onRows.2.1, render onRows.2.2))

omit [PyFloat R] in
theorem flushText_sim (io : WriteOutcome) (self : CSVTelemetryLogger R) (file : CsvFile) :
    Renders (flushText io (self, render file)) (flush io (self, file)) Except.isOk := by
  unfold flushText flush
  dsimp only
  by_cases hidle : self.fileOpen = false ∨ self.buffer = []
  · rw [if_pos hidle, if_pos hidle]
    exact ⟨rfl, fun _ => rfl⟩
  · rw [if_neg hidle, if_neg hidle]
    cases io with
    | success => exact ⟨rfl, fun _ => by rw [render_append]; rfl⟩
    | writeError written => exact ⟨rfl, fun h => by cases h⟩
    | flushError => exact ⟨rfl, fun h => by cases h⟩

theorem logFrameText_sim (call : LogCall R) (self : CSVTelemetryLogger R) (file : CsvFile) :
    Renders (logFrameText call.io call.frame call.label (self, render file))
      (logCall (self, file) call) Except.isOk := by
  unfold logCall logFrameText logFrame
  dsimp only
  cases hparse : self.parser.parseFrame call.frame with
  | mk out parser =>
    cases out with
    | error e => exact ⟨rfl, fun _ => rfl⟩
    | ok parsed =>
      dsimp only
      generalize bufferRow { self with parser := parser } (labelledRow parsed call.label) = self'
      by_cases hfull : self'.bufferSize ≤ (self'.buffer.length : ℤ)
      · rw [if_pos hfull, if_pos hfull]
        obtain ⟨hout, hstate⟩ := flushText_sim call.io self' file
        generalize flushText call.io (self', render file) = onText at hout hstate ⊢
        generalize flush call.io (self', file) = onRows at hout hstate ⊢
        obtain ⟨out, s⟩ := onText
        obtain ⟨out', self'', file'⟩ := onRows
        obtain rfl : out = out' := hout
        cases out with
        | error e => exact ⟨rfl, fun h => by cases h⟩
        | ok _ => exact ⟨rfl, fun _ => hstate rfl⟩
      · rw [if_neg hfull, if_neg hfull]
        exact ⟨rfl, fun _ => rfl⟩

omit [PyFloat R] in
theorem closeText_sim (io : WriteOutcome) (self : CSVTelemetryLogger R) (file : CsvFile) :
    Renders (closeText io (self, render file)) (close io (self, file)) Except.isOk := by
  obtain ⟨hout, hstate⟩ := flushText_sim io self file
  unfold closeText close
  generalize flushText io (self, render file) = onText at hout hstate ⊢
  generalize flush io (self, file) = onRows at hout hstate ⊢
  obtain ⟨out, s⟩ := onText
  obtain ⟨out', self', file'⟩ := onRows
  obtain rfl : out = out' := hout
  cases out with
  | error e => exact ⟨rfl, fun h => by cases h⟩
  | ok _ =>
    obtain rfl : s = (self', render file') := hstate rfl
    exact ⟨rfl, fun _ => rfl⟩

omit [PyFloat R] in
/-- The operations wrap the results of the methods. -/
theorem Renders.map {α γ : Type} {onText : Except PyError α × CSVTelemetryLogger R × List Char}
    {onRows : Except PyError α × CSVTelemetryLogger R × CsvFile}
    (h : Renders onText onRows Except.isOk) (f : α → γ) :
    Renders (onText.1.map f, onText.2) (onRows.1.map f, onRows.2) Except.isOk := by
  refine ⟨congrArg (Except.map f) h.1, fun hok => h.2 ?_⟩
  rwa [isOk_map] at hok

/-- **The simulation.** -/
theorem opCallText_sim (op : LoggerOp R) (self : CSVTelemetryLogger R) (file : CsvFile) :
    Renders (opCallText (self, render file) op) (opCall (self, file) op) Except.isOk := by
  cases op with
  | log call => exact (logFrameText_sim call self file).map some
  | flush io => exact (flushText_sim io self file).map fun _ => none
  | close io => exact (closeText_sim io self file).map fun _ => none

/-- A run whose calls all return. -/
theorem opCallText_run {ops : List (LoggerOp R)} (s : CSVTelemetryLogger R × CsvFile)
    (hok : ∀ r ∈ Machine.outputs opCallText (s.1, render s.2) ops, r.isOk) :
    Machine.outputs opCallText (s.1, render s.2) ops = Machine.outputs opCall s ops ∧
      Machine.final opCallText (s.1, render s.2) ops =
        ((Machine.final opCall s ops).1, render (Machine.final opCall s ops).2) := by
  induction ops generalizing s with
  | nil => exact ⟨rfl, rfl⟩
  | cons op ops ih =>
    obtain ⟨hout, hstate⟩ := opCallText_sim op s.1 s.2
    rw [Machine.outputs_cons, List.forall_mem_cons, hout] at hok
    have hnext := hstate hok.1
    rw [hnext] at hok
    obtain ⟨houts, hfinal⟩ := ih (opCall s op).2 hok.2
    rw [Machine.outputs_cons, Machine.outputs_cons, Machine.final_cons, Machine.final_cons, hout,
      hnext]
    exact ⟨congrArg _ houts, hfinal⟩

end CSVTelemetryLogger

open CSVTelemetryLogger

/-! ## Sessions -/

/-- A whole session on the text of the file. -/
def Session.runText (text : List Char) (session : Session R) : SessionReport R × List Char :=
  let ops := session.ops ++ [.close .success]
  let s := Machine.final opCallText (newText session.bufferSize text) ops
  (⟨Machine.outputs opCallText (newText session.bufferSize text) ops, s.1.totalLogged⟩, s.2)

omit [PyFloat R] in
theorem newText_render (bufferSize : ℤ) (file : CsvFile) :
    (newText bufferSize (render file) : CSVTelemetryLogger R × List Char) =
      ((new bufferSize file : CSVTelemetryLogger R × CsvFile).1,
        render (new bufferSize file : CSVTelemetryLogger R × CsvFile).2) := by
  unfold newText new
  dsimp only
  by_cases h : file = []
  · rw [if_pos h, if_pos ((render_eq_nil_iff file).mpr h)]
    rfl
  · rw [if_neg h, if_neg ((render_eq_nil_iff file).not.mpr h)]

theorem Session.runText_render (session : Session R) (file : CsvFile)
    (hreturn : ∀ r ∈ (session.runText (render file)).1.results, r.isOk) :
    session.runText (render file) = ((session.run file).1, render (session.run file).2) := by
  unfold Session.runText Session.run at *
  dsimp only at hreturn ⊢
  rw [newText_render] at hreturn ⊢
  obtain ⟨houts, hfinal⟩ := opCallText_run (new session.bufferSize file) hreturn
  rw [houts, hfinal]

/-- Several sessions: the reports of the sessions on rows, and the text of their file. -/
theorem runText_sessions {sessions : List (Session R)} {file : CsvFile}
    (hreturn : ∀ report ∈ Machine.outputs Session.runText (render file) sessions,
      ∀ r ∈ report.results, r.isOk) :
    Machine.outputs Session.runText (render file) sessions =
        Machine.outputs Session.run file sessions ∧
      Machine.final Session.runText (render file) sessions =
        render (Machine.final Session.run file sessions) := by
  induction sessions generalizing file with
  | nil => exact ⟨rfl, rfl⟩
  | cons session sessions ih =>
    rw [Machine.outputs_cons, List.forall_mem_cons] at hreturn
    have hsession := session.runText_render file hreturn.1
    rw [hsession] at hreturn
    obtain ⟨houts, hfinal⟩ := ih hreturn.2
    rw [Machine.outputs_cons, Machine.outputs_cons, Machine.final_cons, Machine.final_cons,
      hsession]
    exact ⟨congrArg _ houts, hfinal⟩

/-! ## What the file holds -/

/-- The rows of a log that several sessions have written on a fresh path. -/
def logRows (sessions : List (Session R)) : CsvFile :=
  if sessions = [] then [] else csvFieldnames :: (sessions.flatMap Session.rows).map csvRow

/-- The calls of several sessions. -/
def logCallsOf (sessions : List (Session R)) : List (LogCall R) :=
  sessions.flatMap Session.logCalls

/-- The text that is left is that of the rows, one for each call. -/
theorem final_runText {sessions : List (Session R)}
    (hreturn : ∀ report ∈ Machine.outputs Session.runText [] sessions,
      ∀ r ∈ report.results, r.isOk) :
    Machine.final Session.runText [] sessions = render (logRows sessions) ∧
      List.Forall₂ (fun call row => IsRowOf call.frame call.label row) (logCallsOf sessions)
        (sessions.flatMap Session.rows) := by
  obtain ⟨houts, hfinal⟩ := @runText_sessions R _ _ [] hreturn
  rw [show render [] = [] from rfl] at houts hfinal
  rw [houts] at hreturn
  constructor
  · rw [hfinal, (final_run_eq sessions []).1, logRows]
    by_cases h : sessions = []
    · subst h
      rfl
    · rw [if_pos ⟨rfl, h⟩, if_neg h]
      rfl
  · refine List.rel_flatten ?_
    rw [List.forall₂_map_left_iff, List.forall₂_map_right_iff, List.forall₂_same]
    intro session hsession
    obtain ⟨pre, post, hsessions⟩ := List.append_of_mem hsession
    refine forall₂_acceptedRows (session.decodes (Machine.final Session.run [] pre) ?_)
    exact hreturn _ ((Machine.mem_outputs_iff _ _ _ _).mpr ⟨pre, session, post, hsessions, rfl⟩)

/-- No field of the sessions' rows is longer than `csv.reader` accepts. -/
def FieldsFit (sessions : List (Session R)) : Prop :=
  ∀ row ∈ sessions.flatMap Session.rows, ∀ field ∈ csvRow row,
    field.length ≤ CsvText.Reader.fieldSizeLimit

theorem csvFieldnames_fit :
    ∀ field ∈ csvFieldnames, field.length ≤ CsvText.Reader.fieldSizeLimit := by decide

theorem fits_logRows {sessions : List (Session R)} (h : FieldsFit sessions) :
    CsvText.Fits (logRows sessions) := by
  rw [logRows]
  by_cases hnil : sessions = []
  · rw [if_pos hnil]
    intro row hrow
    cases hrow
  · rw [if_neg hnil]
    intro row hrow
    rcases List.mem_cons.mp hrow with rfl | hrow
    · exact csvFieldnames_fit
    · obtain ⟨row, hmem, rfl⟩ := List.mem_map.mp hrow
      exact h row hmem

/-- **Training on the log.** -/
theorem extractFeaturesFromCsv_logRows {sessions : List (Session R)}
    (hrows : List.Forall₂ (fun call row => IsRowOf call.frame call.label row) (logCallsOf sessions)
      (sessions.flatMap Session.rows))
    (hdlc : ∀ call ∈ logCallsOf sessions, 0 ≤ call.frame.dlc)
    (hts : ∀ call ∈ logCallsOf sessions, ∃ k : ℤ, call.frame.timestamp = (k : R) / 10 ^ 6) :
    extractFeaturesFromCsv (logRows sessions) = .ok
      (Machine.outputs StreamingFeatureExtractor.extractFeatures (StreamingFeatureExtractor.new 50)
        ((logCallsOf sessions).map fun call => ExtractCall.ofFrame call.frame),
      npArray ((logCallsOf sessions).map LogCall.label), featureColumns) := by
  rw [logRows]
  by_cases hnil : sessions = []
  · subst hnil
    rfl
  · rw [if_neg hnil]
    exact extractFeaturesFromCsv_rows hrows hdlc hts

/-- **The text of a log trains the model that saw the frames.** For every number of
sessions on a fresh path in which every call returns, with frames of non-negative DLC and
timestamps in whole microseconds, whatever the labels hold, if no field is longer than
`csv.reader` accepts: it reads the rows back from the text, and the training matrix is the
run of one live extractor over the frames of all sessions, with the given labels but for the
NULs at their ends. -/
theorem session_text_training (sessions : List (Session R))
    (hreturn : ∀ report ∈ Machine.outputs Session.runText [] sessions,
      ∀ r ∈ report.results, r.isOk)
    (hfits : FieldsFit sessions)
    (hdlc : ∀ call ∈ logCallsOf sessions, 0 ≤ call.frame.dlc)
    (hts : ∀ call ∈ logCallsOf sessions, ∃ k : ℤ, call.frame.timestamp = (k : R) / 10 ^ 6) :
    ∃ file, readText excel (Machine.final Session.runText [] sessions) = .ok file ∧
      extractFeaturesFromCsv file = .ok
        (Machine.outputs StreamingFeatureExtractor.extractFeatures
          (StreamingFeatureExtractor.new 50)
          ((logCallsOf sessions).map fun call => ExtractCall.ofFrame call.frame),
        npArray ((logCallsOf sessions).map LogCall.label), featureColumns) := by
  obtain ⟨htext, hrows⟩ := final_runText hreturn
  refine ⟨logRows sessions, ?_, extractFeaturesFromCsv_logRows hrows hdlc hts⟩
  rw [htext, render, CsvText.readText_writeRows (fits_logRows hfits)]

/-- Two sessions on a fresh path: wheel speeds with commas, and a label with commas, quotes
and a line end. -/
def quotedSessions : List (Session ℚ) :=
  [⟨1, [.log (CANFrame.new 0 canIdBrakeOverride [100, 1, 20, 20, 19, 19] none false false false
      (some (3 / 10 ^ 6))) "SPOOF, \"brake\"\r\n"]⟩,
    ⟨100, [.log (CANFrame.new 0 canIdBodyDoors [] none false false false (some 2)) "NORMAL",
      .flush]⟩]

theorem quotedSessions_return : ∀ report ∈ Machine.outputs Session.runText [] quotedSessions,
    ∀ r ∈ report.results, r.isOk := by decide +kernel

theorem quotedSessions_fit : FieldsFit quotedSessions := by
  unfold FieldsFit
  decide +kernel

theorem session_text_training_quoted :
    ∃ file, readText excel (Machine.final Session.runText [] quotedSessions) = .ok file ∧
      extractFeaturesFromCsv file = .ok
        (Machine.outputs StreamingFeatureExtractor.extractFeatures
          (StreamingFeatureExtractor.new 50)
          ((logCallsOf quotedSessions).map fun call => ExtractCall.ofFrame call.frame),
        npArray ((logCallsOf quotedSessions).map LogCall.label), featureColumns) :=
  session_text_training quotedSessions quotedSessions_return quotedSessions_fit (by decide)
    (by
      intro call hcall
      rcases List.mem_cons.mp hcall with rfl | hcall
      · exact ⟨3, rfl⟩
      · obtain rfl := List.mem_singleton.mp hcall
        exact ⟨2000000, by norm_num [CANFrame.new]⟩)

/-- **A log that was cut off.** If only the first characters of the log reach the disk,
`csv.reader` still returns every row that ends before the cut as it was written. At most
one more row is returned, and it is a cut of the row that the cut falls into. -/
theorem session_text_crash (sessions : List (Session R))
    (hreturn : ∀ report ∈ Machine.outputs Session.runText [] sessions,
      ∀ r ∈ report.results, r.isOk)
    (hfits : FieldsFit sessions) {text : List Char}
    (htext : text <+: Machine.final Session.runText [] sessions) :
    ∃ before after, logRows sessions = before ++ after ∧
      ((text = render before ∧ readText excel text = .ok before) ∨
        ∃ row cut, after.head? = some row ∧ CsvText.CutRow row cut ∧ render before <+: text ∧
          text <+: render (before ++ [row]) ∧ readText excel text = .ok (before ++ [cut])) := by
  rw [(final_runText hreturn).1] at htext
  exact CsvText.readText_truncated htext (fits_logRows hfits)

theorem session_text_crash_quoted :
    ∃ before after, logRows quotedSessions = before ++ after ∧
      (((Machine.final Session.runText [] quotedSessions).take 300 = render before ∧
          readText excel ((Machine.final Session.runText [] quotedSessions).take 300) =
            .ok before) ∨
        ∃ row cut, after.head? = some row ∧ CsvText.CutRow row cut ∧
          render before <+: (Machine.final Session.runText [] quotedSessions).take 300 ∧
          (Machine.final Session.runText [] quotedSessions).take 300 <+:
            render (before ++ [row]) ∧
          readText excel ((Machine.final Session.runText [] quotedSessions).take 300) =
            .ok (before ++ [cut])) :=
  session_text_crash quotedSessions quotedSessions_return quotedSessions_fit
    (List.take_prefix _ _)

end CanSentinel
