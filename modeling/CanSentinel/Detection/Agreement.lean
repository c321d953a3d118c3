import CanSentinel.Detection.StreamDetector

/-!
# The two history trackers of the detector

The parser and the feature extractor measure inter-arrival times independently.
`process_frame` feeds both, the parser first, and the alert engine reads the
parser's figures while the model scores the extractor's.

- `TrackersAgree`: both hold the same last timestamps. It is preserved by every
  call whose frame decodes (`TrackersAgree.scoreCall`).
- `SameObservation`: a feature vector and a telemetry record report the same
  frame.
- `scored_what_is_reported`: in a run without exceptions the model scores
  exactly what the alert engine will see.
- `failing_call`: what a raising call leaves behind. The parser's half of the
  updates stays, the threat window and the counters do not move.
-/

namespace CanSentinel.StreamAnomalyDetector

variable {R : Type} [PyFloat R]

/-- The parser and the extractor hold the same timestamp histories. -/
structure TrackersAgree (d : StreamAnomalyDetector R) : Prop where
  perId : d.parser.lastSeenPerId = d.featureExtractor.lastTimestampPerId
  global : d.parser.lastGlobalTimestamp = d.featureExtractor.lastGlobalTimestamp

omit [PyFloat R] in
theorem trackersAgree_new (slidingWindowSize threatWindowSize : ℕ) :
    TrackersAgree (new slidingWindowSize threatWindowSize : StreamAnomalyDetector R) :=
  ⟨rfl, rfl⟩

omit [PyFloat R] in
/-- Recording the same frame in both keeps them in agreement. -/
theorem TrackersAgree.advanced {d : StreamAnomalyDetector R} (h : d.TrackersAgree)
    (frame : CANFrame R) : (d.advanced frame).TrackersAgree where
  perId := congrArg (fun m => m.insert frame.canId frame.timestamp) h.perId
  global := rfl

/-- The step: a call whose frame decodes reaches both trackers. -/
theorem TrackersAgree.scoreCall {d : StreamAnomalyDetector R} (h : d.TrackersAgree)
    (call : DetectorCall R) (hdec : call.2.Decodes) : (d.scoreCall call).2.TrackersAgree := by
  have hextracts := d.scoreCall_extracts call
  rw [if_pos hdec] at hextracts
  constructor
  · rw [d.scoreCall_records, hextracts]
    exact (h.advanced call.2).perId
  · rw [d.scoreCall_records, hextracts]
    exact (h.advanced call.2).global

/-- A feature vector and a telemetry record report the same id, DLC, times and
entropy. -/
structure SameObservation (features : FeatureVector R) (parsed : ParsedTelemetry R) : Prop where
  canId : features.canId = parsed.canId
  dlc : features.dlc = parsed.dlc
  deltaT : features.deltaT = parsed.deltaT
  globalDeltaT : features.globalDeltaT = parsed.globalDeltaT
  entropy : features.entropy = parsed.entropy

/-- From trackers in agreement both measure the same. -/
theorem TrackersAgree.sameObservation {d : StreamAnomalyDetector R} (h : d.TrackersAgree)
    (frame : CANFrame R) (signals : Signals R) :
    SameObservation (d.features frame) (d.telemetry frame signals) where
  canId := rfl
  dlc := rfl
  deltaT := by
    show elapsed (d.featureExtractor.lastTimestampPerId.lookup frame.canId) frame.timestamp =
      elapsed (d.parser.lastSeenPerId.lookup frame.canId) frame.timestamp
    rw [h.perId]
  globalDeltaT := by
    show elapsed d.featureExtractor.lastGlobalTimestamp frame.timestamp =
      elapsed d.parser.lastGlobalTimestamp frame.timestamp
    rw [h.global]
  entropy := rfl

/-- Along a run of decodable frames the trackers agree. -/
theorem trackersAgree_final (slidingWindowSize threatWindowSize : ℕ)
    (calls : List (DetectorCall R)) (hdec : ∀ call ∈ calls, call.2.Decodes) :
    (Machine.final scoreCall (new slidingWindowSize threatWindowSize) calls).TrackersAgree :=
  Machine.history_inv_of (I := fun _ (d : StreamAnomalyDetector R) => d.TrackersAgree)
    (trackersAgree_new _ _) (fun _ _ call hcall h => h.scoreCall call hcall) calls hdec

/-- **The model scores what the alert engine sees.** In a run of a fresh detector
whose calls all return, the vector each call passes to the model reports the same
observation as the telemetry in its result, and after each call the trackers
agree. -/
theorem scored_what_is_reported {W : Type}
    (callbacks : List (Callback PyError W (DetectionResult R)))
    (slidingWindowSize threatWindowSize : ℕ) (subs : Subscribers W (DetectionResult R))
    (calls : List (DetectorCall R))
    (hok : ∀ r ∈ Machine.outputs (processCall callbacks)
      (new slidingWindowSize threatWindowSize, subs) calls, r.isOk) :
    ∀ pre call post, calls = pre ++ call :: post →
      let before := Machine.final (processCall callbacks)
        (new slidingWindowSize threatWindowSize, subs) pre
      let after := Machine.final (processCall callbacks)
        (new slidingWindowSize threatWindowSize, subs) (pre ++ [call])
      (∃ parsed features pred result,
        (before.1.observe call.2).1 = .ok (parsed, features) ∧
        call.1 features = .ok (pred, result.anomalyScore) ∧
        (processCall callbacks before call).1 = .ok result ∧
        result.parsed = parsed ∧ SameObservation features result.parsed) ∧
      after.1.TrackersAgree := by
  rw [outputs_processCall] at hok
  have hdec := decodes_of_outputs_isOk hok
  intro pre call post hcalls
  have hpre : ∀ c ∈ pre, c.2.Decodes := fun c hc => hdec c (by simp [hcalls, hc])
  have hcall : call.2.Decodes := hdec call (by simp [hcalls])
  have hagree := trackersAgree_final slidingWindowSize threatWindowSize pre hpre
  dsimp only
  rw [final_processCall, final_processCall, Machine.final_concat, processCall_fst,
    final_processCall]
  refine ⟨?_, hagree.scoreCall call hcall⟩
  have hmem := (Machine.mem_outputs_iff scoreCall
    (new slidingWindowSize threatWindowSize) calls _).mpr ⟨pre, call, post, hcalls, rfl⟩
  have hret := hok _ hmem
  generalize Machine.final scoreCall (new slidingWindowSize threatWindowSize) pre = d at *
  obtain ⟨result, hresult⟩ := isOk_iff.mp hret
  obtain ⟨_, signals, pred, score, hsig, hpred, rfl⟩ :=
    (d.scoreCall_eq_ok_iff call result).mp hresult
  rcases d.observe_cases call.2 with ⟨signals', hsig', hobs⟩ | ⟨e, herr, _⟩
  · obtain rfl : signals = signals' := Except.ok.inj (hsig.symm.trans hsig')
    exact ⟨d.telemetry call.2 signals, d.features call.2, pred, _, by rw [hobs], hpred, hresult,
      rfl, hagree.sameObservation call.2 signals⟩
  · rw [hsig] at herr
    cases herr

/-- An engine frame received at time `t`, scored as normal. -/
def engineCall (t : ℚ) : DetectorCall ℚ :=
  (fun _ => .ok (1, 0),
    CANFrame.new 0 canIdEngineRpm [9, 196, 40, 1] none false false false (some t))

theorem scored_what_is_reported_engine :
    (Machine.final (processCall (W := Unit) []) (new 50 20, ⟨(), []⟩)
      [engineCall 2, engineCall 1]).1.TrackersAgree :=
  (scored_what_is_reported [] 50 20 ⟨(), []⟩ [engineCall 2, engineCall 1] (by decide +kernel)
    [engineCall 2] (engineCall 1) [] rfl).2

/-! ## Calls that raise -/

/-- **What a raising call leaves.** No subscriber is called, and the threat window
and the counters are as before. The parser has recorded the frame. If decoding
raised, the extractor is as before; if a later step raised, it has recorded the
frame too, and trackers that agreed before still do. -/
theorem failing_call {W : Type} (callbacks : List (Callback PyError W (DetectionResult R)))
    (predictSingle : PredictSingle R) (d : StreamAnomalyDetector R)
    (subs : Subscribers W (DetectionResult R)) (frame : CANFrame R) (e : PyError)
    (herr : (processFrame predictSingle callbacks (d, subs) frame).1 = .error e) :
    let after := (processFrame predictSingle callbacks (d, subs) frame).2
    after.2 = subs ∧
      after.1.threatWindow = d.threatWindow ∧
      after.1.totalProcessed = d.totalProcessed ∧
      after.1.totalAnomaliesFlagged = d.totalAnomaliesFlagged ∧
      after.1.parser = d.parser.recordArrival frame.canId frame.timestamp ∧
      ((¬ frame.Decodes ∧ after.1.featureExtractor = d.featureExtractor) ∨
        (frame.Decodes ∧
          after.1.featureExtractor = d.featureExtractor.advance (ExtractCall.ofFrame frame) ∧
          (d.TrackersAgree → after.1.TrackersAgree))) := by
  let call : DetectorCall R := (predictSingle, frame)
  have hcall : processFrame predictSingle callbacks (d, subs) frame =
      processCall callbacks (d, subs) call := rfl
  rw [hcall] at herr ⊢
  rw [processCall_fst] at herr
  rw [processCall_of_error callbacks herr]
  obtain ⟨hwindow, hprocessed, hflagged⟩ := scoreCall_of_error herr
  refine ⟨rfl, hwindow, hprocessed, hflagged, d.scoreCall_records call, ?_⟩
  have hextracts := d.scoreCall_extracts call
  by_cases hdec : frame.Decodes
  · rw [if_pos hdec] at hextracts
    exact .inr ⟨hdec, hextracts, fun hagree => hagree.scoreCall call hdec⟩
  · rw [if_neg hdec] at hextracts
    exact .inl ⟨hdec, hextracts⟩

/-- `predict_single` of a model that was never trained. -/
def untrained : PredictSingle ℚ :=
  fun _ => .error (.runtimeError "Model must be trained before inference.")

theorem failing_call_untrained :
    (processFrame untrained (W := Unit) [] (new 50 20, ⟨(), []⟩) (engineCall 1).2).2.1.parser =
      CANTelemetryParser.new.recordArrival canIdEngineRpm 1 :=
  (failing_call [] untrained (new 50 20) ⟨(), []⟩ (engineCall 1).2
    (.runtimeError "Model must be trained before inference.") (by decide +kernel)).2.2.2.2.1

/-- A raising call is not a no-op: on a fresh detector with an untrained model the
frame stays in the histories of the parser and of the extractor. -/
theorem raising_call_moves_the_histories :
    let d : StreamAnomalyDetector ℚ := new 50 20
    let call : DetectorCall ℚ := (untrained, (engineCall 1).2)
    Reachable 50 20 d ∧ (d.scoreCall call).1.isOk = false ∧
      (d.scoreCall call).2.parser.lastSeenPerId ≠ d.parser.lastSeenPerId ∧
      (d.scoreCall call).2.parser.lastGlobalTimestamp ≠ d.parser.lastGlobalTimestamp ∧
      (d.scoreCall call).2.parser.messageCounts ≠ d.parser.messageCounts ∧
      (d.scoreCall call).2.parser.totalMessages ≠ d.parser.totalMessages ∧
      (d.scoreCall call).2.featureExtractor ≠ d.featureExtractor :=
  ⟨⟨[], rfl⟩, by decide +kernel, by decide +kernel, by decide +kernel, by decide +kernel,
    by decide +kernel, by decide +kernel⟩

end CanSentinel.StreamAnomalyDetector
