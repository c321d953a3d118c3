import CanSentinel.Lib.Machine
import CanSentinel.Lib.Notify
import CanSentinel.Parser.Telemetry
import CanSentinel.Ml.Features

/-!
# The streaming detector (`detection/stream_detector.py`)

`StreamAnomalyDetector.processFrame` threads a frame through four stateful
parts: the parser, the feature extractor, the rolling threat window and the
counters; then it passes the result to the subscribers. The model it scores
with is a parameter: `predictSingle` may return any label and score, or raise.

- `observe`: steps 1 and 2, the telemetry of a frame and the feature vector
  `predict_single` is called with.
- `score`: steps 1 to 4 with the counters; `processFrame` adds the dispatch.
- `score_cases`: the inversion lemma. A call raises before the extractor sees
  the frame, raises after it, or returns; each case names the state left behind.
-/

namespace CanSentinel

variable {R : Type} [PyFloat R]

/-- `DetectionResult`, without the wall-clock `inference_time_us`. -/
structure DetectionResult (R : Type) where
  frame : CANFrame R
  parsed : ParsedTelemetry R
  isAnomaly : Bool
  anomalyScore : R
  threatDensity : R
  timestamp : R
deriving DecidableEq

/-- `model.predict_single`: a label (`-1` is an anomaly) and a score. -/
abbrev PredictSingle (R : Type) := FeatureVector R → Except PyError (ℤ × R)

/-- `StreamAnomalyDetector`; the model and the callbacks are parameters of its
methods. -/
structure StreamAnomalyDetector (R : Type) where
  parser : CANTelemetryParser R
  featureExtractor : StreamingFeatureExtractor R
  threatWindow : Deque ℕ
  totalProcessed : ℕ
  totalAnomaliesFlagged : ℕ
deriving DecidableEq

namespace StreamAnomalyDetector

/-- `StreamAnomalyDetector.__init__`. -/
def new (slidingWindowSize threatWindowSize : ℕ) : StreamAnomalyDetector R where
  parser := CANTelemetryParser.new
  featureExtractor := StreamingFeatureExtractor.new slidingWindowSize
  threatWindow := Deque.empty ℕ threatWindowSize
  totalProcessed := 0
  totalAnomaliesFlagged := 0

/-- Steps 1 and 2 of `process_frame`: parse the frame, then extract features. -/
def observe (self : StreamAnomalyDetector R) (frame : CANFrame R) :
    Except PyError (ParsedTelemetry R × FeatureVector R) × StreamAnomalyDetector R :=
  match self.parser.parseFrame frame with
  | (.error e, parser) => (.error e, { self with parser := parser })
  | (.ok parsed, parser) =>
    let (features, featureExtractor) :=
      self.featureExtractor.extractFeatures (ExtractCall.ofFrame frame)
    (.ok (parsed, features),
      { self with parser := parser, featureExtractor := featureExtractor })

/-- `process_frame` up to the result: observe, predict, update the threat window
and the counters. -/
def score (predictSingle : PredictSingle R) (self : StreamAnomalyDetector R)
    (frame : CANFrame R) : Except PyError (DetectionResult R) × StreamAnomalyDetector R :=
  match self.observe frame with
  | (.error e, self) => (.error e, self)
  | (.ok (parsed, features), self) =>
    -- 3. predict with the model
    match predictSingle features with
    | .error e => (.error e, self)
    | .ok (pred, score) =>
      let isAnomaly := decide (pred = -1)
      -- 4. rolling threat density over the last frames
      let self := { self with threatWindow := self.threatWindow.append isAnomaly.toNat }
      let flags := self.threatWindow.items
      if flags.length = 0 then (.error (.zeroDivisionError "division by zero"), self)
      else
        let threatDensity : R := (flags.sum : R) / (flags.length : R) * 100.0
        let self := { self with
          totalProcessed := self.totalProcessed + 1
          totalAnomaliesFlagged := self.totalAnomaliesFlagged + isAnomaly.toNat }
        (.ok { frame := frame
               parsed := parsed
               isAnomaly := isAnomaly
               anomalyScore := score
               threatDensity := threatDensity
               timestamp := frame.timestamp }, self)

/-- `StreamAnomalyDetector.process_frame`. A callback that raises is reported and
skipped. -/
def processFrame {W : Type} (predictSingle : PredictSingle R)
    (callbacks : List (Callback PyError W (DetectionResult R)))
    (s : StreamAnomalyDetector R × Subscribers W (DetectionResult R)) (frame : CANFrame R) :
    Except PyError (DetectionResult R) ×
      StreamAnomalyDetector R × Subscribers W (DetectionResult R) :=
  match s.1.score predictSingle frame with
  | (.error e, self) => (.error e, (self, s.2))
  | (.ok result, self) => (.ok result, (self, s.2.notify callbacks result))

/-! ## What a call can do -/

/-- The parser has recorded a frame, the extractor has not: where a decoding
error leaves the detector. -/
def parserAdvanced (self : StreamAnomalyDetector R) (frame : CANFrame R) :
    StreamAnomalyDetector R :=
  { self with parser := self.parser.recordArrival frame.canId frame.timestamp }

/-- Both histories have recorded a frame. -/
def advanced (self : StreamAnomalyDetector R) (frame : CANFrame R) : StreamAnomalyDetector R :=
  { self with
    parser := self.parser.recordArrival frame.canId frame.timestamp
    featureExtractor := self.featureExtractor.advance (ExtractCall.ofFrame frame) }

/-- The telemetry `observe` builds when decoding gives `signals`. -/
def telemetry (self : StreamAnomalyDetector R) (frame : CANFrame R) (signals : Signals R) :
    ParsedTelemetry R :=
  CANTelemetryParser.telemetryOf frame
    (elapsed (self.parser.lastSeenPerId.lookup frame.canId) frame.timestamp)
    (elapsed self.parser.lastGlobalTimestamp frame.timestamp) signals

/-- The feature vector `predict_single` is called with. -/
def features (self : StreamAnomalyDetector R) (frame : CANFrame R) : FeatureVector R :=
  (self.featureExtractor.extractFeatures (ExtractCall.ofFrame frame)).1

/-- Where a returning call leaves the detector: a flagged frame adds a one to the
threat window and to the anomaly counter. -/
def processed (self : StreamAnomalyDetector R) (frame : CANFrame R) (isAnomaly : Bool) :
    StreamAnomalyDetector R :=
  { self.advanced frame with
    threatWindow := self.threatWindow.append isAnomaly.toNat
    totalProcessed := self.totalProcessed + 1
    totalAnomaliesFlagged := self.totalAnomaliesFlagged + isAnomaly.toNat }

/-- The result of a returning call. -/
def resultOf (self : StreamAnomalyDetector R) (frame : CANFrame R) (signals : Signals R)
    (pred : ℤ) (score : R) : DetectionResult R :=
  let flags := (self.processed frame (decide (pred = -1))).threatWindow.items
  { frame := frame
    parsed := self.telemetry frame signals
    isAnomaly := decide (pred = -1)
    anomalyScore := score
    threatDensity := (flags.sum : R) / (flags.length : R) * 100.0
    timestamp := frame.timestamp }

/-- **Inversion of steps 1 and 2.** -/
theorem observe_cases (self : StreamAnomalyDetector R) (frame : CANFrame R) :
    (∃ signals, decodeSignals frame.canId frame.payload = .ok signals ∧
      self.observe frame =
        (.ok (self.telemetry frame signals, self.features frame), self.advanced frame)) ∨
    (∃ e, (decodeSignals frame.canId frame.payload : Except PyError (Signals R)) = .error e ∧
      self.observe frame = (.error e, self.parserAdvanced frame)) := by
  unfold observe
  rcases self.parser.parseFrame_cases frame with ⟨signals, hdec, hout⟩ | ⟨e, hdec, hout⟩
  · rw [hout]
    exact .inl ⟨signals, hdec, rfl⟩
  · rw [hout]
    exact .inr ⟨e, hdec, rfl⟩

/-- **Inversion of `process_frame` up to the dispatch.** Decoding may raise, then
the model, then the division by the length of an empty threat window. -/
theorem score_cases (predictSingle : PredictSingle R) (self : StreamAnomalyDetector R)
    (frame : CANFrame R) :
    (∃ e, (decodeSignals frame.canId frame.payload : Except PyError (Signals R)) = .error e ∧
      self.score predictSingle frame = (.error e, self.parserAdvanced frame)) ∨
    (∃ signals, decodeSignals frame.canId frame.payload = .ok signals ∧
      ((∃ e, predictSingle (self.features frame) = .error e ∧
          self.score predictSingle frame = (.error e, self.advanced frame)) ∨
        (∃ pred score, predictSingle (self.features frame) = .ok (pred, score) ∧
          ((self.threatWindow.maxlen = 0 ∧ self.score predictSingle frame =
              (.error (.zeroDivisionError "division by zero"), self.advanced frame)) ∨
            (0 < self.threatWindow.maxlen ∧ self.score predictSingle frame =
              (.ok (self.resultOf frame signals pred score),
                self.processed frame (decide (pred = -1)))))))) := by
  unfold score
  rcases self.observe_cases frame with ⟨signals, hdec, hobs⟩ | ⟨e, hdec, hobs⟩
  · refine .inr ⟨signals, hdec, ?_⟩
    rw [hobs]
    dsimp only
    cases hpred : predictSingle (self.features frame) with
    | error e => exact .inl ⟨e, rfl, rfl⟩
    | ok r =>
      obtain ⟨pred, sc⟩ := r
      refine .inr ⟨pred, sc, rfl, ?_⟩
      rcases Nat.eq_zero_or_pos self.threatWindow.maxlen with hmax | hmax
      · -- nothing fits into the window, so the append changes nothing
        have happ : (self.advanced frame).threatWindow.append (decide (pred = -1)).toNat =
            (self.advanced frame).threatWindow := Deque.append_of_maxlen_zero _ hmax
        refine .inl ⟨hmax, ?_⟩
        dsimp only
        rw [happ]
        exact if_pos (self.threatWindow.length_items_of_maxlen_zero hmax)
      · have hlen := (self.threatWindow).length_append_pos (decide (pred = -1)).toNat hmax
        exact .inr ⟨hmax, if_neg hlen.ne'⟩
  · rw [hobs]
    exact .inl ⟨e, hdec, rfl⟩

/-! ## Runs -/

/-- One call of `process_frame`: the frame and the answers of the model at that
moment. Nothing relates the answers of one call to those of the next. -/
abbrev DetectorCall (R : Type) := PredictSingle R × CANFrame R

/-- A call without its dispatch. -/
def scoreCall (self : StreamAnomalyDetector R) (call : DetectorCall R) :
    Except PyError (DetectionResult R) × StreamAnomalyDetector R :=
  self.score call.1 call.2

/-- A call. -/
def processCall {W : Type} (callbacks : List (Callback PyError W (DetectionResult R)))
    (s : StreamAnomalyDetector R × Subscribers W (DetectionResult R)) (call : DetectorCall R) :
    Except PyError (DetectionResult R) ×
      StreamAnomalyDetector R × Subscribers W (DetectionResult R) :=
  processFrame call.1 callbacks s call.2

/-- The states a detector with the given window sizes can be in. -/
def Reachable (slidingWindowSize threatWindowSize : ℕ) (self : StreamAnomalyDetector R) : Prop :=
  ∃ calls, self = Machine.final scoreCall (new slidingWindowSize threatWindowSize) calls

section Process

variable {W : Type} (callbacks : List (Callback PyError W (DetectionResult R)))

/-- The dispatch changes neither the result nor the detector. -/
theorem processFrame_eq (predictSingle : PredictSingle R)
    (s : StreamAnomalyDetector R × Subscribers W (DetectionResult R)) (frame : CANFrame R) :
    processFrame predictSingle callbacks s frame =
      ((s.1.score predictSingle frame).1, (s.1.score predictSingle frame).2,
        match (s.1.score predictSingle frame).1 with
        | .ok result => s.2.notify callbacks result
        | .error _ => s.2) := by
  unfold processFrame
  split <;> next h => rw [h]

theorem processCall_fst (s : StreamAnomalyDetector R × Subscribers W (DetectionResult R))
    (call : DetectorCall R) : (processCall callbacks s call).1 = (s.1.scoreCall call).1 := by
  rw [processCall, processFrame_eq]
  rfl

theorem processCall_detector (s : StreamAnomalyDetector R × Subscribers W (DetectionResult R))
    (call : DetectorCall R) : (processCall callbacks s call).2.1 = (s.1.scoreCall call).2 := by
  rw [processCall, processFrame_eq]
  rfl

/-- A raising call tells the subscribers nothing. -/
theorem processCall_of_error {s : StreamAnomalyDetector R × Subscribers W (DetectionResult R)}
    {call : DetectorCall R} {e : PyError} (h : (s.1.scoreCall call).1 = .error e) :
    processCall callbacks s call = (.error e, (s.1.scoreCall call).2, s.2) := by
  rw [scoreCall] at h ⊢
  rw [processCall, processFrame_eq, h]

/-- A returning call tells them its result. -/
theorem processCall_of_ok {s : StreamAnomalyDetector R × Subscribers W (DetectionResult R)}
    {call : DetectorCall R} {result : DetectionResult R}
    (h : (s.1.scoreCall call).1 = .ok result) :
    processCall callbacks s call =
      (.ok result, (s.1.scoreCall call).2, s.2.notify callbacks result) := by
  rw [scoreCall] at h ⊢
  rw [processCall, processFrame_eq, h]

/-- Along a run the detector goes through the states it goes through alone. -/
theorem final_processCall (s : StreamAnomalyDetector R × Subscribers W (DetectionResult R))
    (calls : List (DetectorCall R)) :
    (Machine.final (processCall callbacks) s calls).1 = Machine.final scoreCall s.1 calls :=
  Machine.final_map (p := Prod.fst) (processCall_detector callbacks) s calls

theorem outputs_processCall (s : StreamAnomalyDetector R × Subscribers W (DetectionResult R))
    (calls : List (DetectorCall R)) :
    Machine.outputs (processCall callbacks) s calls = Machine.outputs scoreCall s.1 calls :=
  Machine.outputs_map (p := Prod.fst) (processCall_detector callbacks)
    (processCall_fst callbacks) s calls

end Process

/-- The size of the threat window is fixed at construction. -/
theorem scoreCall_maxlen (self : StreamAnomalyDetector R) (call : DetectorCall R) :
    (self.scoreCall call).2.threatWindow.maxlen = self.threatWindow.maxlen := by
  rcases self.score_cases call.1 call.2 with
    ⟨e, _, h⟩ | ⟨signals, _, ⟨e, _, h⟩ | ⟨pred, score, _, ⟨_, h⟩ | ⟨_, h⟩⟩⟩ <;>
    rw [scoreCall, h] <;> rfl

theorem Reachable.maxlen {slidingWindowSize threatWindowSize : ℕ}
    {self : StreamAnomalyDetector R} (h : Reachable slidingWindowSize threatWindowSize self) :
    self.threatWindow.maxlen = threatWindowSize := by
  obtain ⟨calls, rfl⟩ := h
  exact Machine.final_inv
    (I := fun d : StreamAnomalyDetector R => d.threatWindow.maxlen = threatWindowSize) rfl
    (fun d call hd => (d.scoreCall_maxlen call).trans hd) calls

/-- Every call records its frame in the parser, whether it returns or raises. -/
theorem scoreCall_records (self : StreamAnomalyDetector R) (call : DetectorCall R) :
    (self.scoreCall call).2.parser =
      self.parser.recordArrival call.2.canId call.2.timestamp := by
  rcases self.score_cases call.1 call.2 with
    ⟨e, _, h⟩ | ⟨signals, _, ⟨e, _, h⟩ | ⟨pred, score, _, ⟨_, h⟩ | ⟨_, h⟩⟩⟩ <;>
    rw [scoreCall, h] <;> rfl

/-- Only a frame that decodes reaches the feature extractor. -/
theorem scoreCall_extracts (self : StreamAnomalyDetector R) (call : DetectorCall R) :
    (self.scoreCall call).2.featureExtractor =
      if call.2.Decodes then self.featureExtractor.advance (ExtractCall.ofFrame call.2)
      else self.featureExtractor := by
  rcases self.score_cases call.1 call.2 with
    ⟨e, hdec, h⟩ | ⟨signals, hdec, ⟨e, _, h⟩ | ⟨pred, score, _, ⟨_, h⟩ | ⟨_, h⟩⟩⟩
  · have hnot : ¬ call.2.Decodes := by
      rw [CANFrame.Decodes, hdec]
      exact Bool.false_ne_true
    rw [scoreCall, h, if_neg hnot]
    rfl
  all_goals
    rw [scoreCall, h, if_pos (show call.2.Decodes from isOk_iff.mpr ⟨signals, hdec⟩)]
    rfl

/-- The arrivals of a run. -/
def arrivals (calls : List (DetectorCall R)) : List (ℤ × R) :=
  calls.map fun call => (call.2.canId, call.2.timestamp)

theorem arrivalsSeen_final (slidingWindowSize threatWindowSize : ℕ)
    (calls : List (DetectorCall R)) :
    (Machine.final scoreCall (new slidingWindowSize threatWindowSize) calls).parser.ArrivalsSeen
      (arrivals calls) := by
  refine Machine.history_inv
    (I := fun pre (d : StreamAnomalyDetector R) => d.parser.ArrivalsSeen (arrivals pre))
    CANTelemetryParser.arrivalsSeen_new ?_ calls
  intro pre d call h
  rw [arrivals, List.map_append, scoreCall_records]
  exact h.record call.2.canId call.2.timestamp

/-- **The results of a call**: decoding succeeds, the model answers, and the threat
window has room. -/
theorem scoreCall_eq_ok_iff (self : StreamAnomalyDetector R) (call : DetectorCall R)
    (result : DetectionResult R) :
    (self.scoreCall call).1 = .ok result ↔
      0 < self.threatWindow.maxlen ∧ ∃ signals pred score,
        decodeSignals call.2.canId call.2.payload = .ok signals ∧
        call.1 (self.features call.2) = .ok (pred, score) ∧
        result = self.resultOf call.2 signals pred score := by
  rw [scoreCall]
  rcases self.score_cases call.1 call.2 with
    ⟨e, hdec, h⟩ | ⟨signals, hdec, ⟨e, hpred, h⟩ | ⟨pred, score, hpred, ⟨hmax, h⟩ | ⟨hmax, h⟩⟩⟩
  · simp [h, hdec]
  · simp [h, hpred]
  · simp [h, hmax]
  · rw [h, hdec, hpred]
    constructor
    · intro hres
      exact ⟨hmax, signals, pred, score, rfl, rfl, (Except.ok.inj hres).symm⟩
    · rintro ⟨_, signals', pred', score', hsig, hscore, rfl⟩
      cases hsig
      cases hscore
      rfl

/-- **When a call returns.** -/
theorem scoreCall_isOk_iff (self : StreamAnomalyDetector R) (call : DetectorCall R) :
    (self.scoreCall call).1.isOk ↔
      call.2.Decodes ∧ (call.1 (self.features call.2)).isOk ∧ 0 < self.threatWindow.maxlen := by
  rw [CANFrame.Decodes, isOk_iff, isOk_iff, isOk_iff]
  constructor
  · rintro ⟨result, hres⟩
    obtain ⟨hmax, signals, pred, score, hdec, hpred, _⟩ :=
      (self.scoreCall_eq_ok_iff call result).mp hres
    exact ⟨⟨signals, hdec⟩, ⟨_, hpred⟩, hmax⟩
  · rintro ⟨⟨signals, hdec⟩, ⟨⟨pred, score⟩, hpred⟩, hmax⟩
    exact ⟨_, (self.scoreCall_eq_ok_iff call _).mpr
      ⟨hmax, signals, pred, score, hdec, hpred, rfl⟩⟩

/-- The state a returning call leaves. -/
theorem scoreCall_of_ok {self : StreamAnomalyDetector R} {call : DetectorCall R}
    {result : DetectionResult R} (h : (self.scoreCall call).1 = .ok result) :
    (self.scoreCall call).2 = self.processed call.2 result.isAnomaly := by
  rw [scoreCall] at h ⊢
  rcases self.score_cases call.1 call.2 with
    ⟨e, _, hs⟩ | ⟨signals, _, ⟨e, _, hs⟩ | ⟨pred, score, _, ⟨_, hs⟩ | ⟨_, hs⟩⟩⟩
  · rw [hs] at h
    cases h
  · rw [hs] at h
    cases h
  · rw [hs] at h
    cases h
  · rw [hs] at h ⊢
    obtain rfl := Except.ok.inj h
    rfl

/-- A raising call moves neither the threat window nor the counters. -/
theorem scoreCall_of_error {self : StreamAnomalyDetector R} {call : DetectorCall R}
    {e : PyError} (h : (self.scoreCall call).1 = .error e) :
    (self.scoreCall call).2.threatWindow = self.threatWindow ∧
      (self.scoreCall call).2.totalProcessed = self.totalProcessed ∧
      (self.scoreCall call).2.totalAnomaliesFlagged = self.totalAnomaliesFlagged := by
  rw [scoreCall] at h ⊢
  rcases self.score_cases call.1 call.2 with
    ⟨e, _, hs⟩ | ⟨signals, _, ⟨e, _, hs⟩ | ⟨pred, score, _, ⟨_, hs⟩ | ⟨_, hs⟩⟩⟩
  · rw [hs]
    exact ⟨rfl, rfl, rfl⟩
  · rw [hs]
    exact ⟨rfl, rfl, rfl⟩
  · rw [hs]
    exact ⟨rfl, rfl, rfl⟩
  · rw [hs] at h
    cases h

/-- The flagged results among the results of a run. -/
def flaggedResults (outs : List (Except PyError (DetectionResult R))) :
    List (DetectionResult R) :=
  outs.filterMap fun out => match out with
    | .ok result => if result.isAnomaly then some result else none
    | .error _ => none

/-- In a run whose calls all return every frame decodes. -/
theorem decodes_of_outputs_isOk {self : StreamAnomalyDetector R} {calls : List (DetectorCall R)}
    (hok : ∀ r ∈ Machine.outputs scoreCall self calls, r.isOk) :
    ∀ call ∈ calls, call.2.Decodes := by
  intro call hcall
  obtain ⟨pre, post, rfl⟩ := List.append_of_mem hcall
  have hmem := (Machine.mem_outputs_iff scoreCall self _ _).mpr ⟨pre, call, post, rfl, rfl⟩
  exact ((scoreCall_isOk_iff _ call).mp (hok _ hmem)).1

end StreamAnomalyDetector

end CanSentinel
