import CanSentinel.Lib.Arrivals
import CanSentinel.Parser.Telemetry

/-!
# Counters and delta times (`parser/telemetry_parser.py`)

`parse_frame` counts every frame before it decodes it, so the counters hold whether the
call returns or raises. It also measures the time since the last frame, of the same id
and of any id; on a chronological sequence of frames both streams telescope.

- `Bookkept`: the counters of a parser after the frames since its last reset;
  `Bookkept.step` is the step lemma over both methods.
- `recordAfter`: what a returning call makes of a frame, as a function of the frames
  before it; `outputs_parseFrame` is the run.
- `ChronologicalDeltas`: what the two delta streams add up to.
- `parser_bookkeeping`: every run of calls, and every run on chronological frames.
-/

namespace CanSentinel

variable {R : Type} [PyFloat R]

namespace CANTelemetryParser

/-- `CANTelemetryParser.reset_state`. -/
def resetState (_self : CANTelemetryParser R) : CANTelemetryParser R := ⟨∅, none, ∅, 0⟩

/-- A method call on a parser. -/
inductive Call (R : Type) where
  | parseFrame (frame : CANFrame R)
  | resetState

/-- One method call: what `parse_frame` returns or raises, and the state after it. -/
def step (self : CANTelemetryParser R) :
    Call R → Option (Except PyError (ParsedTelemetry R)) × CANTelemetryParser R
  | .parseFrame frame => (self.parseFrame frame).map some id
  | .resetState => (none, self.resetState)

/-! ## The counters -/

/-- The frames of the `parse_frame` calls since the last `reset_state`. -/
def framesSinceReset (calls : List (Call R)) : List (CANFrame R) :=
  calls.foldl (fun frames call => match call with
    | .parseFrame frame => frames ++ [frame]
    | .resetState => []) []

omit [PyFloat R] in
theorem framesSinceReset_concat (calls : List (Call R)) (call : Call R) :
    framesSinceReset (calls ++ [call]) = match call with
      | .parseFrame frame => framesSinceReset calls ++ [frame]
      | .resetState => [] := by
  rw [framesSinceReset, List.foldl_append]
  rfl

/-- The arrival that is recorded of a frame. -/
def arrival (frame : CANFrame R) : ℤ × R := (frame.canId, frame.timestamp)

/-- The state of a parser after the given frames. -/
structure Bookkept (p : CANTelemetryParser R) (frames : List (CANFrame R)) : Prop where
  seen : p.ArrivalsSeen (frames.map arrival)
  counts : Tallies p.messageCounts (frames.map CANFrame.canId)
  total : p.totalMessages = frames.length

omit [PyFloat R] in
theorem bookkept_new : Bookkept (new : CANTelemetryParser R) [] :=
  ⟨arrivalsSeen_new, tallies_empty, rfl⟩

omit [PyFloat R] in
theorem Bookkept.record {p : CANTelemetryParser R} {frames : List (CANFrame R)}
    (h : p.Bookkept frames) (frame : CANFrame R) :
    (p.recordArrival frame.canId frame.timestamp).Bookkept (frames ++ [frame]) where
  seen := by
    rw [List.map_append]
    exact h.seen.record frame.canId frame.timestamp
  counts := by
    rw [List.map_append]
    exact h.counts.insert frame.canId
  total := by
    rw [List.length_append, ← h.total]
    rfl

/-- Whether or not it raises, `parse_frame` has recorded the arrival. -/
theorem parseFrame_snd (p : CANTelemetryParser R) (frame : CANFrame R) :
    (p.parseFrame frame).2 = p.recordArrival frame.canId frame.timestamp := by
  obtain ⟨_, _, hparse⟩ | ⟨_, _, hparse⟩ := p.parseFrame_cases frame
  · rw [hparse]
  · rw [hparse]

/-- The step: one more frame, or none any more. -/
theorem Bookkept.step (pre : List (Call R)) (p : CANTelemetryParser R) (call : Call R)
    (h : p.Bookkept (framesSinceReset pre)) :
    (p.step call).2.Bookkept (framesSinceReset (pre ++ [call])) := by
  rw [framesSinceReset_concat]
  cases call with
  | parseFrame frame =>
    show (p.parseFrame frame).2.Bookkept _
    rw [parseFrame_snd]
    exact h.record frame
  | resetState => exact bookkept_new

/-! ## The delta times -/

/-- The record of a frame after the frames `pre`, when its signals can be decoded. -/
def recordAfter (pre : List (CANFrame R)) (frame : CANFrame R) : ParsedTelemetry R :=
  telemetryOf frame (sinceKey (pre.map arrival) frame.canId frame.timestamp)
    (elapsed ((pre.map CANFrame.timestamp).getLast?) frame.timestamp)
    ((decodeSignals frame.canId frame.payload).toOption.getD [])

/-- A returning call computes `recordAfter`. -/
theorem Bookkept.parseFrame {p : CANTelemetryParser R} {pre : List (CANFrame R)}
    (h : p.Bookkept pre) {frame : CANFrame R} (hframe : frame.Decodes) :
    (p.parseFrame frame).1 = .ok (recordAfter pre frame) := by
  obtain ⟨signals, hsignals, hparse⟩ | ⟨e, he, _⟩ := p.parseFrame_cases frame
  · have hglobal : p.lastGlobalTimestamp = (pre.map CANFrame.timestamp).getLast? := by
      rw [h.seen.global, ← List.getLast?_map, List.map_map]
      rfl
    rw [hparse, h.seen.elapsed_perId, hglobal, recordAfter, hsignals]
    rfl
  · rw [CANFrame.Decodes, he] at hframe
    cases hframe

/-- A run on frames whose signals can be decoded. -/
theorem outputs_parseFrame {p : CANTelemetryParser R} (h : p.Bookkept [])
    {frames : List (CANFrame R)} (hframes : ∀ frame ∈ frames, frame.Decodes) :
    Machine.outputs CANTelemetryParser.parseFrame p frames =
      (Machine.replay recordAfter [] frames).map .ok := by
  rw [Machine.map_replay]
  refine Machine.outputs_eq_replay (P := CANFrame.Decodes) (I := fun pre p => p.Bookkept pre)
    ?_ ?_ h frames hframes
  · intro pre p frame _ hpre
    rw [parseFrame_snd]
    exact hpre.record frame
  · intro pre p frame hframe hpre
    exact hpre.parseFrame hframe

theorem pairwise_arrivals {frames : List (CANFrame R)}
    (h : frames.Pairwise fun f g => f.timestamp ≤ g.timestamp) :
    ((frames.map arrival).map Prod.snd).Pairwise (· ≤ ·) := by
  rw [List.map_map]
  exact List.pairwise_map.mpr h

/-- What the records of chronological frames say about the times between them. -/
structure ChronologicalDeltas (frames : List (CANFrame R)) (records : List (ParsedTelemetry R)) :
    Prop where
  arrivals : records.map (fun r => (r.canId, r.timestamp)) = frames.map arrival
  global : ∀ first last, frames.head? = some first → frames.getLast? = some last →
    (records.map ParsedTelemetry.globalDeltaT).sum = last.timestamp - first.timestamp
  perId : ∀ canId first last, (frames.filter fun f => f.canId = canId).head? = some first →
    (frames.filter fun f => f.canId = canId).getLast? = some last →
    ((records.filter fun r => r.canId = canId).map ParsedTelemetry.deltaT).sum =
      last.timestamp - first.timestamp
  dominated : ∀ pre r post, records = pre ++ r :: post → (∃ r' ∈ pre, r'.canId = r.canId) →
    r.globalDeltaT ≤ r.deltaT

/-- The two delta streams are the gaps of the arrivals. -/
theorem map_globalDeltaT_replay (frames : List (CANFrame R)) :
    (Machine.replay recordAfter [] frames).map ParsedTelemetry.globalDeltaT =
      gaps (frames.map CANFrame.timestamp) := by
  rw [Machine.map_replay, gaps]
  exact (Machine.replay_map CANFrame.timestamp (fun pre t => elapsed pre.getLast? t) [] frames).symm

theorem map_deltaT_replay (frames : List (CANFrame R)) :
    (Machine.replay recordAfter [] frames).map (fun r => (r.canId, r.deltaT)) =
      keyGaps (frames.map arrival) := by
  rw [Machine.map_replay, keyGaps]
  exact (Machine.replay_map arrival (fun pre e => (e.1, sinceKey pre e.1 e.2)) [] frames).symm

theorem map_arrival_replay (frames : List (CANFrame R)) :
    (Machine.replay recordAfter [] frames).map (fun r => (r.canId, r.timestamp)) =
      frames.map arrival := by
  induction frames using List.reverseRecOn with
  | nil => rfl
  | append_singleton frames frame ih =>
    rw [Machine.replay_concat, List.map_append, List.map_append, ih]
    rfl

theorem sum_globalDeltaT {frames : List (CANFrame R)}
    (hsorted : frames.Pairwise fun f g => f.timestamp ≤ g.timestamp) {first last : CANFrame R}
    (hfirst : frames.head? = some first) (hlast : frames.getLast? = some last) :
    ((Machine.replay recordAfter [] frames).map ParsedTelemetry.globalDeltaT).sum =
      last.timestamp - first.timestamp := by
  rw [map_globalDeltaT_replay]
  refine sum_gaps (List.pairwise_map.mpr hsorted) ?_ ?_
  · rw [List.head?_map, hfirst]
    rfl
  · rw [List.getLast?_map, hlast]
    rfl

theorem sum_deltaT {frames : List (CANFrame R)}
    (hsorted : frames.Pairwise fun f g => f.timestamp ≤ g.timestamp) (canId : ℤ)
    {first last : CANFrame R}
    (hfirst : (frames.filter fun f => f.canId = canId).head? = some first)
    (hlast : (frames.filter fun f => f.canId = canId).getLast? = some last) :
    (((Machine.replay recordAfter [] frames).filter fun r => r.canId = canId).map
      ParsedTelemetry.deltaT).sum = last.timestamp - first.timestamp := by
  have hdeltas : ((Machine.replay recordAfter [] frames).filter fun r => r.canId = canId).map
      ParsedTelemetry.deltaT =
        gaps ((frames.filter fun f => f.canId = canId).map CANFrame.timestamp) := by
    have hkey := keyGaps_filter (frames.map arrival) canId
    rw [← map_deltaT_replay, List.filter_map, List.filter_map, List.map_map, List.map_map] at hkey
    exact hkey
  rw [hdeltas]
  refine sum_gaps (List.pairwise_map.mpr (hsorted.filter _)) ?_ ?_
  · rw [List.head?_map, hfirst]
    rfl
  · rw [List.getLast?_map, hlast]
    rfl

/-- The time since the last frame of the same id is no shorter than since any frame. -/
theorem globalDeltaT_le_deltaT {pre : List (CANFrame R)}
    (hsorted : pre.Pairwise fun f g => f.timestamp ≤ g.timestamp) {frame : CANFrame R}
    (hseen : ∃ f ∈ pre, f.canId = frame.canId) :
    (recordAfter pre frame).globalDeltaT ≤ (recordAfter pre frame).deltaT := by
  have hmem : frame.canId ∈ (pre.map arrival).map Prod.fst := by
    obtain ⟨f, hf, hid⟩ := hseen
    rw [List.map_map]
    exact List.mem_map.mpr ⟨f, hf, hid⟩
  have hle := gap_le_sinceKey (t := frame.timestamp) (pairwise_arrivals hsorted) hmem
  rw [List.map_map] at hle
  exact hle

theorem dominated_replay {frames : List (CANFrame R)}
    (hsorted : frames.Pairwise fun f g => f.timestamp ≤ g.timestamp) :
    ∀ pre r post, Machine.replay recordAfter [] frames = pre ++ r :: post →
      (∃ r' ∈ pre, r'.canId = r.canId) → r.globalDeltaT ≤ r.deltaT := by
  induction frames using List.reverseRecOn with
  | nil =>
    intro pre r post hsplit
    cases pre with
    | nil => cases hsplit
    | cons => cases hsplit
  | append_singleton frames frame ih =>
    obtain ⟨hframes, _, _⟩ := List.pairwise_append.mp hsorted
    rw [Machine.replay_concat]
    refine Machine.forall_split_concat.mpr ⟨ih hframes, ?_⟩
    rintro ⟨r', hr', hid⟩
    refine globalDeltaT_le_deltaT hframes ?_
    -- an earlier record of the id is the record of an earlier frame
    have hmem : (r'.canId, r'.timestamp) ∈ frames.map arrival := by
      rw [← map_arrival_replay]
      exact List.mem_map_of_mem hr'
    obtain ⟨f, hf, harrival⟩ := List.mem_map.mp hmem
    exact ⟨f, hf, (congrArg Prod.fst harrival).trans hid⟩

/-- When every call returns, every frame's signals can be decoded. -/
theorem decodes_of_outputs {p : CANTelemetryParser R} {frames : List (CANFrame R)}
    {records : List (ParsedTelemetry R)}
    (hreturn : Machine.outputs CANTelemetryParser.parseFrame p frames = records.map .ok) :
    ∀ frame ∈ frames, frame.Decodes := by
  intro frame hframe
  obtain ⟨pre, post, rfl⟩ := List.append_of_mem hframe
  have hout := (Machine.mem_outputs_iff CANTelemetryParser.parseFrame p _ _).mpr
    ⟨pre, frame, post, rfl, rfl⟩
  rw [hreturn] at hout
  obtain ⟨record, _, hrecord⟩ := List.mem_map.mp hout
  obtain ⟨signals, hsignals, _⟩ | ⟨e, _, hparse⟩ :=
    (Machine.final CANTelemetryParser.parseFrame p pre).parseFrame_cases frame
  · exact isOk_iff.mpr ⟨signals, hsignals⟩
  · rw [hparse] at hrecord
    cases hrecord

omit [PyFloat R] in
/-- The counters, read off the state of a parser. -/
theorem Bookkept.counters {p : CANTelemetryParser R} {frames : List (CANFrame R)}
    (h : p.Bookkept frames) :
    p.totalMessages = sumValues p.messageCounts ∧ p.totalMessages = frames.length ∧
      (∀ canId, (p.messageCounts.lookup canId).getD 0 =
        frames.countP fun f => f.canId = canId) ∧
      p.lastSeenPerId.keys = p.messageCounts.keys := by
  refine ⟨?_, h.total, ?_, ?_⟩
  · rw [h.counts.sum, h.total, List.length_map]
  · intro canId
    rw [h.counts.getD, List.count, List.countP_map]
    exact List.countP_congr fun f _ => by simp
  · rw [h.seen.perId.keys_eq, h.counts.keys_eq, List.map_map]
    rfl

/-- The records of chronological frames. -/
theorem chronologicalDeltas_replay {frames : List (CANFrame R)}
    (hsorted : frames.Pairwise fun f g => f.timestamp ≤ g.timestamp) :
    ChronologicalDeltas frames (Machine.replay recordAfter [] frames) :=
  ⟨map_arrival_replay frames, fun _ _ => sum_globalDeltaT hsorted,
    fun canId _ _ => sum_deltaT hsorted canId, dominated_replay hsorted⟩

/-- **The bookkeeping of the parser.** After every sequence of calls the counters agree
with the frames since the last reset; and on chronological frames, from a fresh or reset
parser and with every call returning, the delta times telescope, globally and for each
id, and the time since the id was last seen is no shorter than since the last frame. -/
theorem parser_bookkeeping :
    (∀ calls : List (Call R),
      let p := Machine.final step new calls
      let frames := framesSinceReset calls
      p.totalMessages = sumValues p.messageCounts ∧ p.totalMessages = frames.length ∧
        (∀ canId, (p.messageCounts.lookup canId).getD 0 =
          frames.countP fun f => f.canId = canId) ∧
        p.lastSeenPerId.keys = p.messageCounts.keys) ∧
    (∀ (start : CANTelemetryParser R) (frames : List (CANFrame R))
        (records : List (ParsedTelemetry R)),
      (start = new ∨ ∃ used : CANTelemetryParser R, start = used.resetState) →
      frames.Pairwise (fun f g => f.timestamp ≤ g.timestamp) →
      Machine.outputs CANTelemetryParser.parseFrame start frames = records.map .ok →
      ChronologicalDeltas frames records) := by
  constructor
  · intro calls
    exact (Machine.history_inv (I := fun pre p => Bookkept p (framesSinceReset pre))
      bookkept_new Bookkept.step calls).counters
  · intro start frames records hstart hsorted hreturn
    have hfresh : start.Bookkept [] := by
      obtain rfl | ⟨used, rfl⟩ := hstart
      · exact bookkept_new
      · exact bookkept_new
    have hrecords : records = Machine.replay recordAfter [] frames := by
      rw [outputs_parseFrame hfresh (decodes_of_outputs hreturn)] at hreturn
      exact (List.map_injective_iff.mpr (fun _ _ h => Except.ok.inj h) hreturn).symm
    subst hrecords
    exact chronologicalDeltas_replay hsorted

end CANTelemetryParser

end CanSentinel
