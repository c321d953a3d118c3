import CanSentinel.Detection.AlertEngine

/-!
# The forensic record

The alert engine is one of the detection callbacks of a detector, among any
others, and has callbacks of its own. Exceptions of callbacks are swallowed on
both levels.

- `IsAlertOf`: alert number `k` reports a detection.
- `Recorded`: the engine, its log and its callbacks hold the alerts of exactly
  the given detections. `Recorded.evaluate` is its step lemma.
- `one_alert_per_flagged_frame`: along every run the record is that of the
  flagged frames, each with one alert.
-/

namespace CanSentinel

variable {R U : Type} [PyFloat R]

open StreamAnomalyDetector

/-- Alert number `number` reports the detection `result`. -/
structure IsAlertOf (result : DetectionResult R) (number : ℕ) (alert : SecurityAlert R) :
    Prop where
  alertId : alert.alertId = "ALERT-" ++ fmtDec number 6
  canId : alert.canId = result.frame.canId
  timestamp : alert.timestamp = result.frame.timestamp
  payloadHex : alert.payloadHex = hexOfBytes result.frame.payload

/-- The log line of alert number `number` on the detection `result`. -/
structure IsLineOf (result : DetectionResult R) (number : ℕ) (line : JsonObject R) : Prop where
  alertId : line.lookup "alert_id" = some (.str ("ALERT-" ++ fmtDec number 6))
  canId : line.lookup "can_id" = some (.int result.frame.canId)
  timestamp : line.lookup "timestamp" = some (.float result.frame.timestamp)
  payloadHex : line.lookup "payload_hex" = some (.str (hexOfBytes result.frame.payload))

omit [PyFloat R] in
theorem IsAlertOf.line {result : DetectionResult R} {number : ℕ} {alert : SecurityAlert R}
    (h : IsAlertOf result number alert) : IsLineOf result number alert.toDict where
  alertId := by
    rw [← h.alertId]
    rfl
  canId := by
    rw [← h.canId]
    rfl
  timestamp := by
    rw [← h.timestamp]
    rfl
  payloadHex := by
    rw [← h.payloadHex]
    rfl

namespace AlertSystem

/-- The evidence in a system: engine, log file and the calls of the callbacks. -/
def evidence (self : AlertSystem R U) :
    AlertEngine R × List (JsonObject R) × List (ℕ × SecurityAlert R) :=
  (self.engine, self.log, self.subs.calls)

omit [PyFloat R] in
/-- Other detection callbacks do not touch the evidence. -/
theorem evidence_foldl_bystander (cbs : List (Callback PyError U (DetectionResult R)))
    (result : DetectionResult R) (self : AlertSystem R U) :
    ((cbs.map bystander).foldl (fun w cb => (cb result w).2) self).evidence = self.evidence := by
  induction cbs generalizing self with
  | nil => rfl
  | cons cb cbs ih => exact ih _

/-- The system holds the alerts of exactly the detections `flagged`, numbered in
order, after a log that began with `log₀`; each of the `callbacks` callbacks was
told each alert once, in order. -/
structure Recorded (log₀ : List (JsonObject R)) (maxHistory callbacks : ℕ)
    (flagged : List (DetectionResult R)) (sys : AlertSystem R U)
    (alerts : List (SecurityAlert R)) : Prop where
  alertsOf : List.Forall₂ (fun detection alert => IsAlertOf detection.1 detection.2 alert)
    (flagged.zipIdx 1) alerts
  counter : sys.engine.alertCounter = flagged.length
  log : sys.log = log₀ ++ alerts.map SecurityAlert.toDict
  maxlen : sys.engine.recentAlerts.maxlen = maxHistory
  recent : sys.engine.recentAlerts.Holds alerts
  heard : ∀ i < callbacks, sys.subs.heard i = alerts

omit [PyFloat R] in
theorem recorded_new (log₀ : List (JsonObject R)) (maxHistory callbacks : ℕ) (world : U) :
    Recorded log₀ maxHistory callbacks [] (new maxHistory log₀ world) [] where
  alertsOf := .nil
  counter := rfl
  log := (List.append_nil _).symm
  maxlen := rfl
  recent := Deque.holds_empty _
  heard _ _ := rfl

variable {log₀ : List (JsonObject R)} {maxHistory callbacks : ℕ}
  {flagged : List (DetectionResult R)} {alerts : List (SecurityAlert R)}

omit [PyFloat R] in
/-- The record is a property of the evidence. -/
theorem Recorded.congr {self self' : AlertSystem R U}
    (h : Recorded log₀ maxHistory callbacks flagged self alerts)
    (he : self'.evidence = self.evidence) :
    Recorded log₀ maxHistory callbacks flagged self' alerts := by
  obtain ⟨hengine, hrest⟩ := Prod.ext_iff.mp he
  obtain ⟨hlog, hcalls⟩ := Prod.ext_iff.mp hrest
  replace hengine : self'.engine = self.engine := hengine
  replace hlog : self'.log = self.log := hlog
  replace hcalls : self'.subs.calls = self.subs.calls := hcalls
  constructor
  · exact h.alertsOf
  · rw [hengine, h.counter]
  · rw [hlog, h.log]
  · rw [hengine, h.maxlen]
  · rw [hengine]
    exact h.recent
  · intro i hi
    rw [← h.heard i hi, Subscribers.heard, hcalls, Subscribers.heard]

variable (env : AlertEnv R) (alertCallbacks : List (Callback PyError U (SecurityAlert R)))

/-- The step: a flagged detection adds its alert everywhere. -/
theorem Recorded.evaluate {self : AlertSystem R U}
    (h : Recorded log₀ maxHistory alertCallbacks.length flagged self alerts)
    (hlog : ∀ line log, env.appendLine line log = (.ok (), log ++ [line]))
    {result : DetectionResult R} (hanom : result.isAnomaly = true)
    (hiso : (env.isoTime result.timestamp).isOk)
    (hts : result.timestamp = result.frame.timestamp)
    (hhex : result.parsed.payloadHex = hexOfBytes result.frame.payload) :
    ∃ alert, Recorded log₀ maxHistory alertCallbacks.length (flagged ++ [result])
      (self.evaluateDetection env alertCallbacks result).2 (alerts ++ [alert]) := by
  obtain ⟨iso, hiso⟩ := isOk_iff.mp hiso
  refine ⟨alertOf (self.engine.alertCounter + 1) iso result, ?_⟩
  rw [evaluateDetection_anomaly env alertCallbacks self hanom hiso hlog]
  constructor
  · rw [List.zipIdx_append]
    refine List.rel_append h.alertsOf (.cons ⟨?_, rfl, hts, hhex⟩ .nil)
    show "ALERT-" ++ fmtDec (self.engine.alertCounter + 1) 6 = _
    rw [h.counter, Nat.add_comm]
  · rw [List.length_append, List.length_singleton, ← h.counter]
  · rw [h.log, List.map_append, List.append_assoc]
    rfl
  · exact h.maxlen
  · exact h.recent.append _
  · intro i hi
    rw [Subscribers.heard_notify alertCallbacks _ self.subs hi, h.heard i hi]

/-! ## The engine among the callbacks of a detector -/

/-- The callback list of a detector with the engine between other callbacks. -/
def detectionCallbacks (before after : List (Callback PyError U (DetectionResult R))) :
    List (Callback PyError (AlertSystem R U) (DetectionResult R)) :=
  before.map bystander ++ callback env alertCallbacks :: after.map bystander

/-- After a dispatch the evidence is what `evaluate_detection` left, on a system
with the evidence from before it. -/
theorem evidence_notify (before after : List (Callback PyError U (DetectionResult R)))
    (result : DetectionResult R)
    (subs : Subscribers (AlertSystem R U) (DetectionResult R)) :
    ∃ self : AlertSystem R U, self.evidence = subs.world.evidence ∧
      (subs.notify (detectionCallbacks env alertCallbacks before after) result).world.evidence =
        (self.evaluateDetection env alertCallbacks result).2.evidence := by
  refine ⟨(before.map bystander).foldl (fun w cb => (cb result w).2) subs.world,
    evidence_foldl_bystander before result subs.world, ?_⟩
  rw [Subscribers.notify_world, detectionCallbacks, List.foldl_append, List.foldl_cons,
    evidence_foldl_bystander]
  rfl

end AlertSystem

open AlertSystem

/-! ## Runs -/

/-- What holds after the calls of a run: as many anomalies counted as alerts, and
a record of the flagged results. -/
structure ForensicState (log₀ : List (JsonObject R)) (maxHistory callbacks : ℕ)
    (flagged : List (DetectionResult R))
    (s : StreamAnomalyDetector R × Subscribers (AlertSystem R U) (DetectionResult R)) : Prop where
  counted : s.1.totalAnomaliesFlagged = flagged.length
  recorded : ∃ alerts, Recorded log₀ maxHistory callbacks flagged s.2.world alerts

section Run

variable (env : AlertEnv R) (alertCallbacks : List (Callback PyError U (SecurityAlert R)))
  (before after : List (Callback PyError U (DetectionResult R)))
  {log₀ : List (JsonObject R)} {maxHistory : ℕ}

/-- The step: one call, whether it returns or raises. -/
theorem ForensicState.processCall
    (hlog : ∀ line log, env.appendLine line log = (.ok (), log ++ [line]))
    {s : StreamAnomalyDetector R × Subscribers (AlertSystem R U) (DetectionResult R)}
    {outs : List (Except PyError (DetectionResult R))}
    (h : ForensicState log₀ maxHistory alertCallbacks.length (flaggedResults outs) s)
    (call : DetectorCall R) (hiso : (env.isoTime call.2.timestamp).isOk) :
    let cbs := detectionCallbacks env alertCallbacks before after
    ForensicState log₀ maxHistory alertCallbacks.length
      (flaggedResults (outs ++ [(StreamAnomalyDetector.processCall cbs s call).1]))
      (StreamAnomalyDetector.processCall cbs s call).2 := by
  have hcount : ∀ xs ys : List (Except PyError (DetectionResult R)),
      flaggedResults (xs ++ ys) = flaggedResults xs ++ flaggedResults ys :=
    fun xs ys => List.filterMap_append
  dsimp only
  rw [hcount]
  cases hout : (s.1.scoreCall call).1 with
  | error e =>
    obtain ⟨_, _, htotal⟩ := scoreCall_of_error hout
    have hnil : flaggedResults [(.error e : Except PyError (DetectionResult R))] = [] := rfl
    rw [processCall_of_error _ hout, hnil, List.append_nil]
    exact ⟨htotal.trans h.counted, h.recorded⟩
  | ok result =>
    obtain ⟨_, signals, pred, score, _, _, hres⟩ := (scoreCall_eq_ok_iff _ _ _).mp hout
    have hstate := scoreCall_of_ok hout
    obtain ⟨alerts, hrec⟩ := h.recorded
    obtain ⟨sys, hsys, hafter⟩ := evidence_notify env alertCallbacks before after result s.2
    have hrec := hrec.congr hsys
    have htotal : (s.1.scoreCall call).2.totalAnomaliesFlagged =
        (flaggedResults outs).length + result.isAnomaly.toNat := by
      rw [hstate, ← h.counted]
      rfl
    cases hanom : result.isAnomaly with
    | false =>
      have hnil : flaggedResults [(.ok result : Except PyError (DetectionResult R))] = [] := by
        simp [flaggedResults, hanom]
      rw [hanom] at htotal
      rw [evaluateDetection_normal env alertCallbacks sys hanom] at hafter
      rw [processCall_of_ok _ hout, hnil, List.append_nil]
      exact ⟨htotal, alerts, hrec.congr hafter⟩
    | true =>
      have hone : flaggedResults [(.ok result : Except PyError (DetectionResult R))] =
          [result] := by
        simp [flaggedResults, hanom]
      obtain ⟨alert, hrec'⟩ := hrec.evaluate env alertCallbacks hlog hanom
        (by rw [hres]; exact hiso) (by rw [hres]; rfl) (by rw [hres]; rfl)
      rw [hanom] at htotal
      rw [processCall_of_ok _ hout, hone]
      exact ⟨by rw [htotal, List.length_append]; rfl, _, hrec'.congr hafter⟩

/-- A frame that is not flagged leaves the evidence alone. -/
theorem evidence_processCall_normal
    (s : StreamAnomalyDetector R × Subscribers (AlertSystem R U) (DetectionResult R))
    (call : DetectorCall R) {result : DetectionResult R}
    (hout : (s.1.scoreCall call).1 = .ok result) (hanom : result.isAnomaly = false) :
    (processCall (detectionCallbacks env alertCallbacks before after) s
      call).2.2.world.evidence = s.2.world.evidence := by
  obtain ⟨sys, hsys, hafter⟩ := evidence_notify env alertCallbacks before after result s.2
  rw [evaluateDetection_normal env alertCallbacks sys hanom] at hafter
  rw [processCall_of_ok _ hout]
  exact hafter.trans hsys

/-- The record along a run. -/
theorem forensicState_final (slidingWindowSize threatWindowSize : ℕ) (world : U)
    (log₀ : List (JsonObject R)) (maxHistory : ℕ)
    (hlog : ∀ line log, env.appendLine line log = (.ok (), log ++ [line]))
    (calls : List (DetectorCall R))
    (hiso : ∀ call ∈ calls, (env.isoTime call.2.timestamp).isOk) :
    let step := processCall (detectionCallbacks env alertCallbacks before after)
    let s₀ : StreamAnomalyDetector R × Subscribers (AlertSystem R U) (DetectionResult R) :=
      (new slidingWindowSize threatWindowSize, ⟨AlertSystem.new maxHistory log₀ world, []⟩)
    ForensicState log₀ maxHistory alertCallbacks.length
      (flaggedResults (Machine.outputs step s₀ calls)) (Machine.final step s₀ calls) := by
  dsimp only
  -- the results of the calls so far are part of the invariant
  induction calls using List.reverseRecOn with
  | nil => exact ⟨rfl, [], recorded_new _ _ _ _⟩
  | append_singleton calls call ih =>
    rw [List.forall_mem_append, List.forall_mem_singleton] at hiso
    rw [Machine.outputs_concat, Machine.final_concat]
    exact (ih hiso.1).processCall env alertCallbacks before after hlog call hiso.2

/-- **Exactly one recorded alert per flagged frame.** The engine is one of the
detection callbacks of a fresh detector. Along every run, with a log that can be
written and timestamps that can be formatted: as many alerts as flagged frames;
the log, the bounded history and every alert callback have the alerts of the
flagged frames, numbered in order, and each new line of the log has the number and the
frame's id, timestamp and payload; a frame that is not flagged changes nothing. -/
theorem one_alert_per_flagged_frame (slidingWindowSize threatWindowSize : ℕ) (world : U)
    (log₀ : List (JsonObject R)) (maxHistory : ℕ) (calls : List (DetectorCall R))
    (hlog : ∀ line log, env.appendLine line log = (.ok (), log ++ [line]))
    (hiso : ∀ call ∈ calls, (env.isoTime call.2.timestamp).isOk) :
    let step := processCall (detectionCallbacks env alertCallbacks before after)
    let s₀ : StreamAnomalyDetector R × Subscribers (AlertSystem R U) (DetectionResult R) :=
      (new slidingWindowSize threatWindowSize, ⟨AlertSystem.new maxHistory log₀ world, []⟩)
    let detector := (Machine.final step s₀ calls).1
    let sys := (Machine.final step s₀ calls).2.world
    let flagged := flaggedResults (Machine.outputs step s₀ calls)
    sys.engine.alertCounter = detector.totalAnomaliesFlagged ∧
      (∃ alerts,
        List.Forall₂ (fun detection alert => IsAlertOf detection.1 detection.2 alert)
          (flagged.zipIdx 1) alerts ∧
        sys.log = log₀ ++ alerts.map SecurityAlert.toDict ∧
        List.Forall₂ (fun detection line => IsLineOf detection.1 detection.2 line)
          (flagged.zipIdx 1) (alerts.map SecurityAlert.toDict) ∧
        sys.engine.recentAlerts.items <:+ alerts ∧
        sys.engine.recentAlerts.items.length = min sys.engine.alertCounter maxHistory ∧
        ∀ i < alertCallbacks.length, sys.subs.heard i = alerts) ∧
      ∀ call result, (step (Machine.final step s₀ calls) call).1 = .ok result →
        result.isAnomaly = false →
        (step (Machine.final step s₀ calls) call).2.2.world.engine = sys.engine ∧
          (step (Machine.final step s₀ calls) call).2.2.world.log = sys.log := by
  dsimp only
  obtain ⟨hcounted, alerts, hrec⟩ := forensicState_final env alertCallbacks before after
    slidingWindowSize threatWindowSize world log₀ maxHistory hlog calls hiso
  have hlen := hrec.alertsOf.length_eq
  rw [List.length_zipIdx] at hlen
  refine ⟨hrec.counter.trans hcounted.symm,
    ⟨alerts, hrec.alertsOf, hrec.log, ?_, ?_, ?_, hrec.heard⟩, ?_⟩
  · rw [List.forall₂_map_right_iff]
    exact hrec.alertsOf.imp fun _ _ halert => halert.line
  · rw [hrec.recent]
    exact List.drop_suffix _ _
  · rw [hrec.recent.length_items, hrec.maxlen, hrec.counter, hlen]
  · intro call result hout hanom
    rw [processCall_fst] at hout
    have hevidence := evidence_processCall_normal env alertCallbacks before after _ call hout hanom
    exact ⟨congrArg Prod.fst hevidence, congrArg (fun e => e.2.1) hevidence⟩

end Run

/-- A brake frame at time `t` that the model flags. -/
def flaggedBrakeCall (t : ℚ) : DetectorCall ℚ :=
  (fun _ => .ok (-1, 6 / 10),
    CANFrame.new 0 canIdBrakeOverride [90, 1, 10, 10, 10, 10] none false false false (some t))

/-- A callback that raises on every event. -/
def raisingCallback {α : Type} : Callback PyError Unit α :=
  fun _ world => (.error (.valueError "display not available"), world)

theorem one_alert_per_flagged_frame_brake :
    let step := processCall (detectionCallbacks (.healthy ℚ) [raisingCallback] [raisingCallback] [])
    let s₀ : StreamAnomalyDetector ℚ × Subscribers (AlertSystem ℚ Unit) (DetectionResult ℚ) :=
      (new 50 20, ⟨AlertSystem.new 100 [] (), []⟩)
    let s := Machine.final step s₀ [flaggedBrakeCall (1 / 4), flaggedBrakeCall (1 / 2)]
    s.2.world.engine.alertCounter = s.1.totalAnomaliesFlagged :=
  (one_alert_per_flagged_frame (.healthy ℚ) [raisingCallback] [raisingCallback] [] 50 20 () [] 100
    [flaggedBrakeCall (1 / 4), flaggedBrakeCall (1 / 2)] (fun _ _ => rfl) (fun _ _ => rfl)).1

end CanSentinel
