import CanSentinel.Detection.AlertEngine

/-!
# Flood verdicts and transmission rates

The alert engine calls a flagged frame a flood when its inter-arrival time is
below 0.8 ms. It reads that time from the parser, which reports `0.0` for the
first frame of an id and for a timestamp that runs backwards; both fall under
the threshold.

- `monitorCall`: `process_frame` followed by `evaluate_detection` on its result.
- `FloodAlertsBacked`: every flood alert of a run on a non-zero id stems from
  two frames of that id less than 0.8 ms apart.
- `flood_alerts_backed_iff`: exactly the runs in which every flagged frame of a
  non-zero id follows an earlier, not later-stamped frame of its id.
-/

namespace CanSentinel

variable {R U : Type} [PyFloat R]

open StreamAnomalyDetector

/-- `process_frame`, then `evaluate_detection` on the result; the alert, if one is
returned. -/
def monitorCall (env : AlertEnv R) (alertCallbacks : List (Callback PyError U (SecurityAlert R)))
    (s : StreamAnomalyDetector R × AlertSystem R U) (call : DetectorCall R) :
    Option (SecurityAlert R) × StreamAnomalyDetector R × AlertSystem R U :=
  match s.1.scoreCall call with
  | (.error _, detector) => (none, (detector, s.2))
  | (.ok result, detector) =>
    match s.2.evaluateDetection env alertCallbacks result with
    | (.ok alert, alerts) => (alert, (detector, alerts))
    | (.error _, alerts) => (none, (detector, alerts))

/-- A call reaches an alert: the frame decodes, the model labels it `-1`, and
nothing on the way raises. -/
structure RaisesAlert (env : AlertEnv R) (d : StreamAnomalyDetector R) (call : DetectorCall R) :
    Prop where
  decodes : call.2.Decodes
  flagged : ∃ score, call.1 (d.features call.2) = .ok (-1, score)
  room : 0 < d.threatWindow.maxlen
  dated : (env.isoTime call.2.timestamp).isOk

/-- The last frame with the same id, and that it is not stamped later. -/
def FollowsSameId (earlier : List (ℤ × R)) (frame : CANFrame R) : Prop :=
  ∃ last, lastOf earlier frame.canId = some last ∧ last ≤ frame.timestamp

/-- An alert is backed by a high rate: its frame follows the latest frame of the
same id by `d` with `0 ≤ d < 0.8 ms`. -/
def BackedByRate (earlier : List (ℤ × R)) (alert : SecurityAlert R) : Prop :=
  ∃ last, lastOf earlier alert.canId = some last ∧
    0 ≤ alert.timestamp - last ∧ alert.timestamp - last < 0.0008

variable (env : AlertEnv R) (alertCallbacks : List (Callback PyError U (SecurityAlert R)))

theorem monitorCall_detector (s : StreamAnomalyDetector R × AlertSystem R U)
    (call : DetectorCall R) :
    (monitorCall env alertCallbacks s call).2.1 = (s.1.scoreCall call).2 := by
  unfold monitorCall
  split
  · next h => rw [h]
  · next h =>
    split <;> rw [h]

/-- **Inversion of a monitored call.** -/
theorem monitorCall_eq_some_iff (s : StreamAnomalyDetector R × AlertSystem R U)
    (call : DetectorCall R) (alert : SecurityAlert R) :
    (monitorCall env alertCallbacks s call).1 = some alert ↔
      ∃ result iso, (s.1.scoreCall call).1 = .ok result ∧ result.isAnomaly = true ∧
        env.isoTime result.timestamp = .ok iso ∧
        alert = AlertSystem.alertOf (s.2.engine.alertCounter + 1) iso result := by
  unfold monitorCall
  have heval := s.2.evaluateDetection_eq_some_iff env alertCallbacks
  split
  · next e d h => simp [h]
  · next result d h =>
    have := heval result alert
    split
    · next out alerts hout =>
      rw [hout] at this
      simpa [h] using this
    · next e alerts hout =>
      rw [hout] at this
      simpa [h] using this

/-- The results a call can return from a state: those of a flagged frame. -/
theorem scoreCall_anomaly_iff (d : StreamAnomalyDetector R) (call : DetectorCall R)
    (result : DetectionResult R) :
    (d.scoreCall call).1 = .ok result ∧ result.isAnomaly = true ↔
      0 < d.threatWindow.maxlen ∧ ∃ signals score,
        decodeSignals call.2.canId call.2.payload = .ok signals ∧
        call.1 (d.features call.2) = .ok (-1, score) ∧
        result = d.resultOf call.2 signals (-1) score := by
  rw [scoreCall_eq_ok_iff]
  constructor
  · rintro ⟨⟨hroom, signals, pred, score, hsig, hpred, rfl⟩, hanom⟩
    obtain rfl : pred = -1 := of_decide_eq_true hanom
    exact ⟨hroom, signals, score, hsig, hpred, rfl⟩
  · rintro ⟨hroom, signals, score, hsig, hpred, rfl⟩
    exact ⟨⟨hroom, signals, -1, score, hsig, hpred, rfl⟩, rfl⟩

/-- **One step.** In a state whose parser has seen `earlier`, a call returns a
flood alert on a non-zero id that the rate does not back exactly when it reaches
an alert for a frame that follows no earlier frame of its id. -/
theorem floodAlert_backed_iff {earlier : List (ℤ × R)}
    (s : StreamAnomalyDetector R × AlertSystem R U) (h : s.1.parser.ArrivalsSeen earlier)
    (call : DetectorCall R) :
    (∀ alert, (monitorCall env alertCallbacks s call).1 = some alert →
        alert.attackType = .dosBusFlood → alert.canId ≠ 0 → BackedByRate earlier alert) ↔
      (RaisesAlert env s.1 call → call.2.canId ≠ 0 → FollowsSameId earlier call.2) := by
  have hdelta := h.elapsed_perId call.2.canId call.2.timestamp
  constructor
  · rintro hbacked ⟨hdec, ⟨score, hpred⟩, hroom, hdated⟩ hne
    obtain ⟨signals, hsig⟩ := isOk_iff.mp hdec
    obtain ⟨iso, hiso⟩ := isOk_iff.mp hdated
    by_contra hfollows
    -- without an earlier frame, or against the clock, the measured time is zero
    have hzero : (s.1.telemetry call.2 signals).deltaT = 0 := by
      show elapsed (s.1.parser.lastSeenPerId.lookup call.2.canId) call.2.timestamp = 0
      rw [hdelta, sinceKey]
      cases hlast : lastOf earlier call.2.canId with
      | none => rfl
      | some last => exact elapsed_of_lt (not_le.mp fun hle => hfollows ⟨last, hlast, hle⟩)
    obtain ⟨hres, hanom⟩ := (scoreCall_anomaly_iff s.1 call _).mpr
      ⟨hroom, signals, score, hsig, hpred, rfl⟩
    obtain ⟨last, hlast, hle, _⟩ := hbacked _
      ((monitorCall_eq_some_iff env alertCallbacks s call _).mpr
        ⟨_, iso, hres, hanom, hiso, rfl⟩)
      ((classify_dosBusFlood_iff _ _ _ _).mpr (.inr (by
        show (s.1.telemetry call.2 signals).deltaT * 1000.0 < 0.8
        rw [hzero]
        norm_num))) hne
    exact hfollows ⟨last, hlast, sub_nonneg.mp hle⟩
  · rintro hfollows alert halert hdos hne
    obtain ⟨result, iso, hres, hanom, hiso, rfl⟩ :=
      (monitorCall_eq_some_iff env alertCallbacks s call _).mp halert
    obtain ⟨hroom, signals, score, hsig, hpred, rfl⟩ :=
      (scoreCall_anomaly_iff s.1 call _).mp ⟨hres, hanom⟩
    obtain ⟨last, hlast, hle⟩ := hfollows
      ⟨isOk_iff.mpr ⟨_, hsig⟩, ⟨score, hpred⟩, hroom,
        isOk_iff.mpr ⟨_, hiso⟩⟩ hne
    have hshort := ((classify_dosBusFlood_iff _ _ _ _).mp hdos).resolve_left hne
    have hmeasured : (s.1.telemetry call.2 signals).deltaT = call.2.timestamp - last := by
      show elapsed (s.1.parser.lastSeenPerId.lookup call.2.canId) call.2.timestamp = _
      rw [hdelta, sinceKey, hlast, elapsed_of_le hle]
    refine ⟨last, hlast, sub_nonneg.mpr hle, ?_⟩
    have hms : (call.2.timestamp - last) * 1000.0 < 0.8 := hmeasured ▸ hshort
    show call.2.timestamp - last < 0.0008
    norm_num at hms ⊢
    linarith

/-! ## Runs -/

/-- Every flood alert of the run on a non-zero id is backed by a high rate. -/
def FloodAlertsBacked (s : StreamAnomalyDetector R × AlertSystem R U)
    (calls : List (DetectorCall R)) : Prop :=
  ∀ pre call post, calls = pre ++ call :: post → ∀ alert,
    (monitorCall env alertCallbacks
      (Machine.final (monitorCall env alertCallbacks) s pre) call).1 = some alert →
    alert.attackType = .dosBusFlood → alert.canId ≠ 0 → BackedByRate (arrivals pre) alert

/-- Every frame of a non-zero id that reaches an alert follows an earlier frame of
its id that is not stamped later. -/
def AlertedFramesFollow (d : StreamAnomalyDetector R) (calls : List (DetectorCall R)) : Prop :=
  ∀ pre call post, calls = pre ++ call :: post →
    RaisesAlert env (Machine.final scoreCall d pre) call → call.2.canId ≠ 0 →
    FollowsSameId (arrivals pre) call.2

theorem final_monitorCall (s : StreamAnomalyDetector R × AlertSystem R U)
    (calls : List (DetectorCall R)) :
    (Machine.final (monitorCall env alertCallbacks) s calls).1 =
      Machine.final scoreCall s.1 calls :=
  Machine.final_map (p := Prod.fst) (monitorCall_detector env alertCallbacks) s calls

/-- **When flood verdicts are backed by a rate.** In every run of a fresh detector
with its alert engine, whatever the model answers: every flood alert on a non-zero
id is backed by a high rate if and only if every alerted frame of a non-zero id
follows an earlier, not later-stamped frame of its id. -/
theorem flood_alerts_backed_iff (slidingWindowSize threatWindowSize : ℕ)
    (alerts : AlertSystem R U) (calls : List (DetectorCall R)) :
    FloodAlertsBacked env alertCallbacks (new slidingWindowSize threatWindowSize, alerts) calls ↔
      AlertedFramesFollow env (new slidingWindowSize threatWindowSize) calls := by
  unfold FloodAlertsBacked AlertedFramesFollow
  have hstep : ∀ pre call, _ ↔ _ := fun pre call =>
    floodAlert_backed_iff env alertCallbacks
      (Machine.final (monitorCall env alertCallbacks)
        (new slidingWindowSize threatWindowSize, alerts) pre)
      (by
        rw [final_monitorCall]
        exact arrivalsSeen_final slidingWindowSize threatWindowSize pre) call
  simp only [hstep, final_monitorCall]

/-- A climate frame at time `t` that the model flags. -/
def flaggedClimateCall (t : ℚ) : DetectorCall ℚ :=
  (fun _ => .ok (-1, 7 / 10),
    CANFrame.new 0 canIdBodyClimate [22, 18, 2, 1] none false false false (some t))

/-- The first frame of an id is called a flood, and so is a frame stamped half a
second before its predecessor. -/
theorem first_and_late_frames_are_floods :
    let calls := [flaggedClimateCall (3 / 4), flaggedClimateCall (1 / 4)]
    let s : StreamAnomalyDetector ℚ × AlertSystem ℚ Unit := (new 50 20, AlertSystem.new 100 [] ())
    (Machine.outputs (monitorCall (.healthy ℚ) []) s calls).map
        (fun alert => alert.map fun a => (a.attackType, a.canId, a.timestamp)) =
      [some (.dosBusFlood, canIdBodyClimate, 3 / 4), some (.dosBusFlood, canIdBodyClimate, 1 / 4)] ∧
      ¬ FloodAlertsBacked (.healthy ℚ) [] s [flaggedClimateCall (3 / 4)] := by
  refine ⟨by decide +kernel, ?_⟩
  intro hbacked
  have hstep := (floodAlert_backed_iff (.healthy ℚ) []
    (new 50 20, AlertSystem.new 100 [] ()) CANTelemetryParser.arrivalsSeen_new
    (flaggedClimateCall (3 / 4))).mp (hbacked [] _ [] rfl)
  obtain ⟨last, hlast, _⟩ :=
    hstep ⟨by decide +kernel, ⟨7 / 10, rfl⟩, by decide, rfl⟩ (by decide)
  exact nomatch hlast

end CanSentinel
