import CanSentinel.Ml.FeatureHistory
import CanSentinel.Detection.StreamDetector

/-!
# Isolation between arbitration ids

The parser and the extractor key their histories by the number in `can_id`, so
the per-id figures of a frame depend on the earlier frames with that number
only. The number is all they look at: a standard and an extended frame with the
same number share one history (`same_number_interferes`).

- `FramesSeen d H`: parser and extractor both hold what the frames `H` left.
- `perIdOf H frame`: the per-id figures of a frame as a function of the frames
  before it; `perIdOf_filter` says which of them matter.
- `numbers_do_not_interfere`: removing all frames with other numbers from a
  stream does not change the per-id figures of the frames that stay.
-/

namespace CanSentinel.StreamAnomalyDetector

variable {R : Type} [PyFloat R]

/-- The figures the detector computes from the history of one id. -/
structure PerIdFigures (R : Type) where
  parsedDeltaT : R
  deltaT : R
  payloadChangeRate : R
deriving DecidableEq

/-- The per-id figures of an observation. -/
def perIdFigures (o : ParsedTelemetry R × FeatureVector R) : PerIdFigures R :=
  ⟨o.1.deltaT, o.2.deltaT, o.2.payloadChangeRate⟩

/-- A call of `process_frame`, seen through the per-id figures it computes. -/
def perIdCall (d : StreamAnomalyDetector R) (call : DetectorCall R) :
    Except PyError (PerIdFigures R) × StreamAnomalyDetector R :=
  ((d.observe call.2).1.map perIdFigures, (d.scoreCall call).2)

/-- The parser and the extractor hold what the frames `H` left. -/
structure FramesSeen (d : StreamAnomalyDetector R) (H : List (CANFrame R)) : Prop where
  arrivals : d.parser.ArrivalsSeen (H.map fun f => (f.canId, f.timestamp))
  calls : d.featureExtractor.CallsSeen (H.map ExtractCall.ofFrame)

omit [PyFloat R] in
theorem framesSeen_new (slidingWindowSize threatWindowSize : ℕ) :
    FramesSeen (new slidingWindowSize threatWindowSize : StreamAnomalyDetector R) [] :=
  ⟨CANTelemetryParser.arrivalsSeen_new, StreamingFeatureExtractor.callsSeen_new _⟩

omit [PyFloat R] in
theorem FramesSeen.advanced {d : StreamAnomalyDetector R} {H : List (CANFrame R)}
    (h : d.FramesSeen H) (frame : CANFrame R) : (d.advanced frame).FramesSeen (H ++ [frame]) where
  arrivals := by
    rw [List.map_append]
    exact h.arrivals.record frame.canId frame.timestamp
  calls := by
    rw [List.map_append]
    exact h.calls.advance (ExtractCall.ofFrame frame)

/-- The step: a call whose frame decodes extends the history by its frame. -/
theorem FramesSeen.scoreCall {d : StreamAnomalyDetector R} {H : List (CANFrame R)}
    (h : d.FramesSeen H) (call : DetectorCall R) (hdec : call.2.Decodes) :
    (d.scoreCall call).2.FramesSeen (H ++ [call.2]) := by
  have hextracts := d.scoreCall_extracts call
  rw [if_pos hdec] at hextracts
  constructor
  · rw [d.scoreCall_records]
    exact (h.advanced call.2).arrivals
  · rw [hextracts]
    exact (h.advanced call.2).calls

/-- The per-id figures of a frame as a function of the frames before it. -/
def perIdOf (H : List (CANFrame R)) (frame : CANFrame R) : PerIdFigures R where
  parsedDeltaT := sinceKey (H.map fun f => (f.canId, f.timestamp)) frame.canId frame.timestamp
  deltaT := sinceKey (H.map fun f => (f.canId, f.timestamp)) frame.canId frame.timestamp
  payloadChangeRate := FeatureExtractor.calculatePayloadChangeRate frame.payload
    (lastOf (H.map fun f => (f.canId, f.payload)) frame.canId)

omit [PyFloat R] in
theorem lastOf_map_filter {V : Type} (H : List (CANFrame R)) (canId : ℤ) (f : CANFrame R → V) :
    lastOf ((H.filter fun g => g.canId = canId).map fun g => (g.canId, f g)) canId =
      lastOf (H.map fun g => (g.canId, f g)) canId := by
  rw [← lastOf_filter (H.map _), List.filter_map]
  rfl

/-- Only the earlier frames with the same number matter. -/
theorem perIdOf_filter (H : List (CANFrame R)) (frame : CANFrame R) :
    perIdOf (H.filter fun f => f.canId = frame.canId) frame = perIdOf H frame := by
  unfold perIdOf sinceKey
  rw [lastOf_map_filter, lastOf_map_filter]

/-- The figures of a call are those of the frames seen. -/
theorem FramesSeen.perIdCall {d : StreamAnomalyDetector R} {H : List (CANFrame R)}
    (h : d.FramesSeen H) (call : DetectorCall R) (hdec : call.2.Decodes) :
    (d.perIdCall call).1 = .ok (perIdOf H call.2) := by
  have hparsed := h.arrivals.elapsed_perId call.2.canId call.2.timestamp
  have hts := h.calls.timestamps call.2.canId
  have hpay := h.calls.payloads call.2.canId
  rw [List.map_map] at hts hpay
  rcases d.observe_cases call.2 with ⟨signals, _, hobs⟩ | ⟨e, herr, _⟩
  · rw [StreamAnomalyDetector.perIdCall, hobs]
    show Except.ok (⟨elapsed (d.parser.lastSeenPerId.lookup call.2.canId) call.2.timestamp,
      elapsed (d.featureExtractor.lastTimestampPerId.lookup call.2.canId) call.2.timestamp,
      FeatureExtractor.calculatePayloadChangeRate call.2.payload
        (d.featureExtractor.lastPayloadPerId.lookup call.2.canId)⟩ : PerIdFigures R) = _
    rw [hparsed, hts, hpay]
    rfl
  · rw [CANFrame.Decodes, herr] at hdec
    cases hdec

/-- **Different numbers do not interfere.** In a stream of decodable frames, the
per-id figures of the frames with the number `canId` are the same as when all
frames with other numbers are removed. -/
theorem numbers_do_not_interfere (slidingWindowSize threatWindowSize : ℕ)
    (calls : List (DetectorCall R)) (hdec : ∀ call ∈ calls, call.2.Decodes) (canId : ℤ) :
    ((calls.zip (Machine.outputs perIdCall (new slidingWindowSize threatWindowSize) calls)).filter
      fun e => e.1.2.canId = canId).map Prod.snd =
    Machine.outputs perIdCall (new slidingWindowSize threatWindowSize)
      (calls.filter fun call => call.2.canId = canId) := by
  let g (pre : List (DetectorCall R)) (call : DetectorCall R) :
      Except PyError (PerIdFigures R) := .ok (perIdOf (pre.map Prod.snd) call.2)
  have hrun : ∀ cs : List (DetectorCall R), (∀ call ∈ cs, call.2.Decodes) →
      Machine.outputs perIdCall (new slidingWindowSize threatWindowSize) cs =
        Machine.replay g [] cs := fun cs hcs =>
    Machine.outputs_eq_replay (I := fun pre d => d.FramesSeen (pre.map Prod.snd))
      (fun pre d call hcall h => by
        rw [List.map_append]
        exact h.scoreCall call hcall)
      (fun pre d call hcall h => h.perIdCall call hcall) (framesSeen_new _ _) cs hcs
  rw [hrun calls hdec, hrun _ fun call hcall => hdec call (List.mem_of_mem_filter hcall)]
  refine Machine.replay_filter (p := fun call => decide (call.2.canId = canId)) ?_ [] calls
  intro pre call hcall
  obtain rfl : call.2.canId = canId := of_decide_eq_true hcall
  show Except.ok (perIdOf ((pre.filter _).map Prod.snd) call.2) = Except.ok (perIdOf _ call.2)
  rw [← perIdOf_filter (pre.map Prod.snd), List.filter_map]
  rfl

/-- A speed frame received at time `t`, in the standard or the extended format. -/
def speedCall (isExtended : Bool) (data : Bytes) (t : ℚ) : DetectorCall ℚ :=
  (fun _ => .ok (1, 0), CANFrame.new 0 canIdVehicleSpeed data none isExtended false false (some t))

/-- A climate frame received at time `t`. -/
def climateCall (t : ℚ) : DetectorCall ℚ :=
  (fun _ => .ok (1, 0), CANFrame.new 0 canIdBodyClimate [22] none false false false (some t))

theorem numbers_do_not_interfere_speed :
    let calls := [speedCall false [1, 2] 1, climateCall 2, speedCall false [1, 3] 3]
    ((calls.zip (Machine.outputs perIdCall (new 50 20) calls)).filter
      fun e => e.1.2.canId = canIdVehicleSpeed).map Prod.snd =
    Machine.outputs perIdCall (new 50 20)
      (calls.filter fun call => call.2.canId = canIdVehicleSpeed) :=
  numbers_do_not_interfere 50 20
    [speedCall false [1, 2] 1, climateCall 2, speedCall false [1, 3] 3] (by decide +kernel)
    canIdVehicleSpeed

/-- An extended frame with the number of a standard id changes the figures of that
id's own next frame. -/
theorem same_number_interferes :
    let calls := [speedCall false [1, 2] 1, speedCall true [9, 9] 2, speedCall false [1, 2] 3]
    (∀ call ∈ calls, call.2.Decodes) ∧
      ((calls.zip (Machine.outputs perIdCall (new 50 20) calls)).filter
        fun e => e.1.2.isExtended = false ∧ e.1.2.canId = canIdVehicleSpeed).map Prod.snd ≠
      Machine.outputs perIdCall (new 50 20)
        (calls.filter fun call =>
          call.2.isExtended = false ∧ call.2.canId = canIdVehicleSpeed) := by
  decide +kernel

end CanSentinel.StreamAnomalyDetector
