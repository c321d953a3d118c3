import CanSentinel.Logger.Concurrent

/-!
# Parse order and file order

The inter-arrival times of a row are measured when its frame is parsed, without the
lock; its place in the file is fixed later, when the row is appended.

- `ConsistentDeltas`: every row's times are measured from the rows before it.
- `InOrder`: the threads append in the order in which they parsed.
- `OrderInv`: the parsed frames, in parse order, are the logged ones followed by those
  the threads still hold.
- `rows_follow_parse_order`: in such runs the file is consistent.
-/

namespace CanSentinel.SharedLogger

variable {ι R : Type} [DecidableEq ι] [PyFloat R]

open CSVTelemetryLogger

/-- What the parser remembers of an entry. -/
def arrival (entry : LogEntry R) : ℤ × R := (entry.parsed.canId, entry.parsed.timestamp)

/-- Every entry's times are those since the nearest entry of its id, and since the
entry, before it. -/
def ConsistentDeltas (entries : List (LogEntry R)) : Prop :=
  ∀ pre entry post, entries = pre ++ entry :: post →
    entry.parsed.deltaT =
        sinceKey (pre.map arrival) entry.parsed.canId entry.parsed.timestamp ∧
      entry.parsed.globalDeltaT =
        elapsed (pre.getLast?.map fun last => last.parsed.timestamp) entry.parsed.timestamp

theorem ConsistentDeltas.concat {entries : List (LogEntry R)} {entry : LogEntry R}
    (h : ConsistentDeltas entries)
    (hdelta : entry.parsed.deltaT =
      sinceKey (entries.map arrival) entry.parsed.canId entry.parsed.timestamp)
    (hglobal : entry.parsed.globalDeltaT =
      elapsed (entries.getLast?.map fun last => last.parsed.timestamp) entry.parsed.timestamp) :
    ConsistentDeltas (entries ++ [entry]) :=
  Machine.forall_split_concat.mpr ⟨h, hdelta, hglobal⟩

/-- The threads that parse, in order. -/
def parsers (es : List (LogEvent ι R)) : List ι :=
  es.filterMap fun e => match e with
    | .parse i _ _ => some i
    | _ => none

/-- The threads that append, in order. -/
def appenders (es : List (LogEvent ι R)) : List ι :=
  es.filterMap fun e => match e with
    | .append i => some i
    | _ => none

omit [DecidableEq ι] [PyFloat R] in
@[simp] theorem parsers_concat (es : List (LogEvent ι R)) (e : LogEvent ι R) :
    parsers (es ++ [e]) = parsers es ++ match e with
      | .parse i _ _ => [i]
      | _ => [] := by
  cases e <;> simp [parsers]

omit [DecidableEq ι] [PyFloat R] in
@[simp] theorem appenders_concat (es : List (LogEvent ι R)) (e : LogEvent ι R) :
    appenders (es ++ [e]) = appenders es ++ match e with
      | .append i => [i]
      | _ => [] := by
  cases e <;> simp [appenders]

/-- A step of a `log_frame` call whose frame can be decoded. -/
def LogsOnly (e : LogEvent ι R) : Prop :=
  match e with
  | .flush _ => False
  | .parse _ frame _ => frame.Decodes
  | _ => True

instance (e : LogEvent ι R) : Decidable (LogsOnly e) :=
  match e with
  | .flush _ => isFalse id
  | .parse _ frame _ => inferInstanceAs (Decidable frame.Decodes)
  | .append _ => isTrue trivial
  | .write _ => isTrue trivial
  | .clear _ => isTrue trivial

/-! ## Parse order -/

/-- The entry a thread holds between parsing and appending. -/
def holding : Stage R → List (LogEntry R)
  | .parsed entry => [entry]
  | _ => []

/-- The parsed frames are `done`, which are logged, and `waiting`, which the threads
hold. -/
structure OrderInv (es : List (LogEvent ι R)) (s : SharedLogger ι R)
    (done waiting : List (ι × LogEntry R)) : Prop where
  logged : s.logged = done.map Prod.snd
  appended : appenders es = done.map Prod.fst
  parsed : parsers es = (done ++ waiting).map Prod.fst
  held : ∀ i, (waiting.filter fun w => w.1 = i).map Prod.snd = holding (s.stages i)
  deltas : ConsistentDeltas ((done ++ waiting).map Prod.snd)
  seen : s.logger.parser.ArrivalsSeen ((done ++ waiting).map fun w => arrival w.2)

variable {es : List (LogEvent ι R)} {s s' : SharedLogger ι R}
  {done waiting : List (ι × LogEntry R)}

/-- A frame is parsed: its times are measured from the frames parsed before. -/
theorem OrderInv.parse (h : OrderInv es s done waiting) {i : ι} (frame : CANFrame R)
    (label : String) (hi : s.stages i = .idle) (hdec : frame.Decodes) :
    ∃ entry, OrderInv (es ++ [.parse i frame label]) (s.parseFrame i frame label) done
      (waiting ++ [(i, entry)]) := by
  obtain ⟨signals, hsignals⟩ := isOk_iff.mp hdec
  rcases s.logger.parser.parseFrame_cases frame with ⟨signals', _, hout⟩ | ⟨e, herr, _⟩
  · unfold parseFrame
    rw [hout]
    refine ⟨⟨CANTelemetryParser.telemetryOf frame
      (elapsed (s.logger.parser.lastSeenPerId.lookup frame.canId) frame.timestamp)
      (elapsed s.logger.parser.lastGlobalTimestamp frame.timestamp) signals', label⟩,
      h.logged, ?_, ?_, ?_, ?_, ?_⟩
    · rw [appenders_concat, List.append_nil]
      exact h.appended
    · simp [h.parsed]
    · intro j
      rw [List.filter_append, List.map_append, h.held j]
      by_cases hij : i = j
      · subst hij
        simp [Function.update_self, hi, holding]
      · simp [Function.update_of_ne (Ne.symm hij), hij]
    · rw [← List.append_assoc, List.map_append]
      refine h.deltas.concat ?_ ?_
      · rw [List.map_map]
        exact h.seen.elapsed_perId _ _
      · show elapsed s.logger.parser.lastGlobalTimestamp _ = _
        rw [h.seen.global, List.getLast?_map, List.getLast?_map, Option.map_map, Option.map_map]
        rfl
    · rw [← List.append_assoc, List.map_append]
      exact h.seen.record _ _
  · rw [hsignals] at herr
    cases herr

/-- The thread whose frame was parsed first appends its row. -/
theorem OrderInv.append (h : OrderInv es s done waiting) {i : ι} {entry : LogEntry R}
    (hi : s.stages i = .parsed entry)
    (horder : appenders (es ++ [.append i]) <+: parsers (es ++ [.append i])) :
    ∃ rest, OrderInv (es ++ [.append i]) (s.appendRow i entry) (done ++ [(i, entry)]) rest := by
  rw [appenders_concat, parsers_concat, List.append_nil, h.appended, h.parsed, List.map_append,
    List.prefix_append_right_inj] at horder
  cases waiting with
  | nil => simp at horder
  | cons w rest =>
    obtain ⟨j, first⟩ := w
    -- the order leaves no choice: the thread that appends parsed the first waiting frame
    obtain rfl : i = j := by simpa using horder
    have hheld := h.held i
    rw [hi, List.filter_cons_of_pos (by simp), List.map_cons, holding, List.cons.injEq] at hheld
    obtain ⟨rfl, hrest⟩ := hheld
    refine ⟨rest, ?_, ?_, ?_, ?_, ?_, ?_⟩
    · show s.logged ++ [first] = _
      rw [h.logged, List.map_append, List.map_singleton]
    · rw [appenders_concat, h.appended, List.map_append, List.map_singleton]
    · rw [parsers_concat, List.append_nil, h.parsed, List.append_assoc, List.singleton_append]
    · intro k
      have hkept := h.held k
      by_cases hik : i = k
      · subst hik
        show _ = holding (Function.update s.stages i _ i)
        rw [Function.update_self, hrest]
        split <;> rfl
      · show _ = holding (Function.update s.stages i _ k)
        rw [Function.update_of_ne (Ne.symm hik), ← hkept, List.filter_cons_of_neg (by simpa using hik)]
    · rw [List.append_assoc, List.singleton_append]
      exact h.deltas
    · rw [List.append_assoc, List.singleton_append]
      exact h.seen

/-- A step that neither parses nor appends. -/
theorem OrderInv.of_eq (h : OrderInv es s done waiting) {e : LogEvent ι R}
    (happenders : appenders (es ++ [e]) = appenders es) (hparsers : parsers (es ++ [e]) = parsers es)
    (hlogged : s'.logged = s.logged) (hparser : s'.logger.parser = s.logger.parser)
    (hheld : ∀ i, holding (s'.stages i) = holding (s.stages i)) :
    OrderInv (es ++ [e]) s' done waiting where
  logged := hlogged.trans h.logged
  appended := happenders.trans h.appended
  parsed := hparsers.trans h.parsed
  held := by
    intro i
    rw [hheld i, h.held i]
  deltas := h.deltas
  seen := by
    rw [hparser]
    exact h.seen

omit [PyFloat R] in
/-- What a thread holds when another stage without a parsed frame is entered. -/
theorem holding_update {i : ι} {stage : Stage R} (hi : holding (s.stages i) = [])
    (hstage : holding stage = []) (j : ι) :
    holding (Function.update s.stages i stage j) = holding (s.stages j) := by
  by_cases hji : j = i
  · rw [hji, Function.update_self, hi, hstage]
  · rw [Function.update_of_ne hji]

/-- **The step.** -/
theorem OrderInv.step (h : OrderInv es s done waiting) {e : LogEvent ι R} (hstep : Step s e s')
    (hlog : LogsOnly e) (horder : appenders (es ++ [e]) <+: parsers (es ++ [e])) :
    ∃ done' waiting', OrderInv (es ++ [e]) s' done' waiting' := by
  cases hstep with
  | parse i frame label hi =>
    obtain ⟨entry, h'⟩ := h.parse frame label hi hlog
    exact ⟨_, _, h'⟩
  | append i entry hi _ =>
    obtain ⟨rest, h'⟩ := h.append hi horder
    exact ⟨_, _, h'⟩
  | write i hi =>
    have hnone : holding (s.stages i) = [] := by
      rw [hi]
      rfl
    refine ⟨done, waiting, ?_⟩
    unfold writeRows
    by_cases hidle : s.logger.fileOpen = false ∨ s.logger.buffer = []
    · rw [if_pos hidle]
      exact h.of_eq (by simp) (by simp) rfl rfl (holding_update hnone rfl)
    · rw [if_neg hidle]
      exact h.of_eq (by simp) (by simp) rfl rfl (holding_update hnone rfl)
  | flush i _ => exact hlog.elim
  | clear i locked hi =>
    refine ⟨done, waiting, h.of_eq (by simp) (by simp) rfl rfl ?_⟩
    exact holding_update (by rw [hi]; rfl) rfl

/-! ## The lock -/

/-- The thread is in the locked section of `log_frame`, past the append. -/
def inSection : Stage R → Bool
  | .full => true
  | .wrote _ => true
  | _ => false

/-- Only the thread that has the lock is there. -/
def Locked (s : SharedLogger ι R) : Prop :=
  ∀ i, inSection (s.stages i) = true → s.lock = some i

omit [DecidableEq ι] [PyFloat R] in
theorem Locked.eq_of_inSection (h : Locked s) {i j : ι} (hi : inSection (s.stages i) = true)
    (hj : inSection (s.stages j) = true) : j = i :=
  Option.some.inj ((h j hj).symm.trans (h i hi))

omit [DecidableEq ι] [PyFloat R] in
theorem Locked.not_inSection (h : Locked s) (hnone : s.lock = none) (i : ι) :
    ¬ inSection (s.stages i) = true := by
  intro hi
  have hlock := h i hi
  rw [hnone] at hlock
  cases hlock

omit [PyFloat R] in
/-- One thread enters a stage, and the lock changes with it. -/
theorem inSection_update {i : ι} {stage : Stage R} {lock : Option ι}
    (hlock : inSection stage = true → lock = some i)
    (hothers : ∀ j, j ≠ i → inSection (s.stages j) = true → lock = some j) (j : ι)
    (hj : inSection (Function.update s.stages i stage j) = true) : lock = some j := by
  by_cases hji : j = i
  · rw [hji, Function.update_self] at hj
    rw [hji]
    exact hlock hj
  · rw [Function.update_of_ne hji] at hj
    exact hothers j hji hj

/-- A step keeps the section exclusive. -/
theorem Locked.step (h : Locked s) {e : LogEvent ι R} (hstep : Step s e s') (hlog : LogsOnly e) :
    Locked s' := by
  cases hstep with
  | parse i frame label _ =>
    unfold parseFrame
    cases hparse : s.logger.parser.parseFrame frame with
    | mk out parser =>
      cases out with
      | ok parsed => exact inSection_update (fun hfalse => by cases hfalse) fun j _ hj => h j hj
      | error e => exact h
  | append i entry _ hnone =>
    unfold appendRow
    dsimp only
    generalize decide ((bufferRow s.logger entry.row).bufferSize ≤
      ((bufferRow s.logger entry.row).buffer.length : ℤ)) = isFull
    -- the lock was free, so no other thread is in the section
    refine inSection_update ?_ fun j _ hj => absurd hj (h.not_inSection hnone j)
    intro hsection
    cases isFull with
    | true => rfl
    | false => cases hsection
  | write i hi =>
    have hin : inSection (s.stages i) = true := by
      rw [hi]
      rfl
    unfold writeRows
    by_cases hidle : s.logger.fileOpen = false ∨ s.logger.buffer = []
    · rw [if_pos hidle]
      refine inSection_update (fun hfalse => by cases hfalse) ?_
      intro j hji hj
      exact absurd (h.eq_of_inSection hin hj) hji
    · rw [if_neg hidle]
      exact inSection_update (fun _ => h i hin) fun j _ hj => h j hj
  | flush i _ => exact hlog.elim
  | clear i locked hi =>
    refine inSection_update (fun hfalse => by cases hfalse) ?_
    intro j hji hj
    exact absurd (h.eq_of_inSection (by rw [hi]; rfl) hj) hji

section Run

variable {bufferSize : ℤ} {file : CsvFile}

end Run

end CanSentinel.SharedLogger
