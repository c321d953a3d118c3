import CanSentinel.Attacks.Suite
import CanSentinel.Detection.Flood
import CanSentinel.Detection.Fuzzing
import CanSentinel.Sim.RoundTrip

/-!
# The verdicts on the simulated attacks

What the alert engine says about the frames of the attack suite and of the simulator, in
every run of the detector, with any model and any other traffic. The verdict is a function of
the frame and of the earlier arrivals of its id.

- `calmVerdict`: the chain below the fuzzing threshold.
- `alert_classified`: the verdict of an alert, from the history of the run.
- `suite_verdicts`: each attack of the suite, and the simulator's own frames.
-/

namespace CanSentinel

open StreamAnomalyDetector CANAttackSuite

/-! ## Payloads that are no fuzzing -/

section Chain

variable {R : Type} [PyFloat R]

/-- The chain for a payload below the entropy threshold. -/
def calmVerdict (canId : ℤ) (deltaTMs : R) : AttackType × Severity :=
  if canId = 0x000 ∨ deltaTMs < 0.8 then (.dosBusFlood, .critical)
  else if canId = canIdBrakeOverride then (.criticalBrakeSpoofing, .critical)
  else if canId = canIdEngineRpm then (.enginePowertrainSpoofing, .high)
  else if (ecuSubsystemMap.lookup canId).isNone then (.unauthorizedArbitrationId, .high)
  else (.statisticalTimingAnomaly, (subsystemOf canId).criticality)

theorem classify_calm (canId : ℤ) (deltaTMs : R) {entropy : R} (h : ¬ 2.75 < entropy)
    (anomalyScore : R) :
    ((classify canId deltaTMs entropy anomalyScore).attackType,
      (classify canId deltaTMs entropy anomalyScore).severity) = calmVerdict canId deltaTMs := by
  unfold classify calmVerdict
  rw [if_neg h]
  repeat' split
  all_goals rfl

omit [PyFloat R] in
theorem length_payload_le {frame : CANFrame R} {n : ℕ} (h : frame.dlc = n) :
    frame.payload.length ≤ n := by
  rw [CANFrame.payload, h, pySlice_of_nonneg _ (Int.natCast_nonneg n), Int.toNat_natCast]
  exact List.length_take_le _ _

/-- The threshold in seconds. -/
theorem fast_iff (gap : R) : gap * 1000.0 < 0.8 ↔ gap < 0.0008 := by
  norm_num
  rw [← lt_div_iff₀ (by norm_num)]
  norm_num

/-! ## Alerts of a run -/

variable {U : Type} (env : AlertEnv R)
  (alertCallbacks : List (Callback PyError U (SecurityAlert R)))
  (slidingWindowSize threatWindowSize : ℕ) (alerts : AlertSystem R U)

/-- The alert that a call returns after the calls `pre`. -/
def alertAfter (pre : List (DetectorCall R)) (call : DetectorCall R) : Option (SecurityAlert R) :=
  (monitorCall env alertCallbacks (Machine.final (monitorCall env alertCallbacks)
    (new slidingWindowSize threatWindowSize, alerts) pre) call).1

/-- The time since the last frame of the same id; 0 for the first. -/
def gapBefore (pre : List (DetectorCall R)) (call : DetectorCall R) : R :=
  sinceKey (arrivals pre) call.2.canId call.2.timestamp

variable {env alertCallbacks slidingWindowSize threatWindowSize alerts}
  {pre : List (DetectorCall R)} {call : DetectorCall R} {alert : SecurityAlert R}

/-- **The verdict of an alert**: the chain, applied to the id, the time since the last frame of
the id, and the entropy of the payload. -/
theorem alert_classified
    (h : alertAfter env alertCallbacks slidingWindowSize threatWindowSize alerts pre call =
      some alert) :
    ∃ score, alert.canId = call.2.canId ∧
      alert.attackType = (classify call.2.canId (gapBefore pre call * 1000.0)
        (shannonEntropy call.2.payload) score).attackType ∧
      alert.severity = (classify call.2.canId (gapBefore pre call * 1000.0)
        (shannonEntropy call.2.payload) score).severity := by
  obtain ⟨result, iso, hresult, hanom, _, rfl⟩ :=
    (monitorCall_eq_some_iff env alertCallbacks _ call alert).mp h
  rw [final_monitorCall] at hresult
  obtain ⟨_, signals, score, _, _, rfl⟩ :=
    (scoreCall_anomaly_iff _ call result).mp ⟨hresult, hanom⟩
  have hgap : elapsed ((Machine.final scoreCall (new slidingWindowSize threatWindowSize)
      pre).parser.lastSeenPerId.lookup call.2.canId) call.2.timestamp = gapBefore pre call :=
    (arrivalsSeen_final slidingWindowSize threatWindowSize pre).elapsed_perId _ _
  refine ⟨score, rfl, ?_, ?_⟩
  all_goals
    rw [← hgap]
    rfl

/-- A frame that decodes and is flagged raises an alert, after any other calls. -/
theorem exists_alertAfter (hroom : 0 < threatWindowSize) (hdec : call.2.Decodes) {score : R}
    (hflag : ∀ v, call.1 v = .ok (-1, score)) (hiso : (env.isoTime call.2.timestamp).isOk) :
    ∃ alert, alertAfter env alertCallbacks slidingWindowSize threatWindowSize alerts pre call =
      some alert := by
  obtain ⟨signals, hsignals⟩ := isOk_iff.mp hdec
  obtain ⟨iso, hiso⟩ := isOk_iff.mp hiso
  have hmaxlen : 0 < (Machine.final scoreCall (new slidingWindowSize threatWindowSize)
      pre).threatWindow.maxlen := by
    rw [Reachable.maxlen ⟨pre, rfl⟩]
    exact hroom
  obtain ⟨hresult, hanom⟩ := (scoreCall_anomaly_iff _ call _).mpr
    ⟨hmaxlen, signals, score, hsignals, hflag _, rfl⟩
  refine ⟨_, (monitorCall_eq_some_iff env alertCallbacks _ call _).mpr
    ⟨_, iso, ?_, hanom, hiso, rfl⟩⟩
  rw [final_monitorCall]
  exact hresult

/-- The verdict on a flood. -/
theorem flood_verdict
    (h : alertAfter env alertCallbacks slidingWindowSize threatWindowSize alerts pre call =
      some alert) (hid : call.2.canId = 0) :
    alert.attackType = .dosBusFlood ∧ alert.severity = .critical := by
  obtain ⟨score, _, htype, hseverity⟩ := alert_classified h
  rw [classify, if_pos (.inl hid)] at htype hseverity
  exact ⟨htype, hseverity⟩

end Chain

/-! ## Over the reals -/

section Run

/-- Six bytes have too little entropy for a fuzzing verdict. -/
theorem entropy_calm {data : Bytes} (h : data.length ≤ 6) : ¬ 2.75 < (shannonEntropy data : ℝ) := by
  rw [entropy_exceeds_iff (by omega)]
  exact fun hfuzz => absurd hfuzz.1 (by omega)

variable {U : Type} {env : AlertEnv ℝ}
  {alertCallbacks : List (Callback PyError U (SecurityAlert ℝ))}
  {slidingWindowSize threatWindowSize : ℕ} {alerts : AlertSystem ℝ U}
  {pre : List (DetectorCall ℝ)} {call : DetectorCall ℝ} {alert : SecurityAlert ℝ}

/-- The verdict on a frame with a short payload. -/
theorem alert_calm
    (h : alertAfter env alertCallbacks slidingWindowSize threatWindowSize alerts pre call =
      some alert) (hlen : call.2.payload.length ≤ 6) :
    (alert.attackType, alert.severity) =
      calmVerdict call.2.canId (gapBefore pre call * 1000.0) := by
  obtain ⟨score, _, htype, hseverity⟩ := alert_classified h
  rw [htype, hseverity]
  exact classify_calm _ _ (entropy_calm hlen) _

/-- The verdict on a short frame of a known ECU id: never fuzzing or an unknown id. -/
theorem known_verdict
    (h : alertAfter env alertCallbacks slidingWindowSize threatWindowSize alerts pre call =
      some alert) (hlen : call.2.payload.length ≤ 6) {kind : EcuMessage}
    (hid : call.2.canId = kind.canId) :
    (alert.attackType, alert.severity) =
      if gapBefore pre call < 0.0008 then (.dosBusFlood, .critical)
      else match kind with
        | .brake => (.criticalBrakeSpoofing, .critical)
        | .engineRpm => (.enginePowertrainSpoofing, .high)
        | kind => (.statisticalTimingAnomaly, (subsystemOf kind.canId).criticality) := by
  have hzero : kind.canId ≠ 0x000 := by cases kind <;> decide
  rw [alert_calm h hlen, hid, calmVerdict]
  by_cases hfast : gapBefore pre call < 0.0008
  · rw [if_pos (.inr ((fast_iff _).mpr hfast)), if_pos hfast]
  · rw [if_neg (not_or.mpr ⟨hzero, (fast_iff _).not.mpr hfast⟩), if_neg hfast]
    cases kind <;> rfl

/-- The verdict on a spoofed brake frame. -/
theorem brake_verdict
    (h : alertAfter env alertCallbacks slidingWindowSize threatWindowSize alerts pre call =
      some alert) {brakePct : ℤ} {absActive : Bool} {now : ℝ}
    (hframe : craftSpoofBrakeFrame brakePct absActive now = .ok call.2) :
    (alert.attackType, alert.severity) =
      if gapBefore pre call < 0.0008 then (.dosBusFlood, .critical)
      else (.criticalBrakeSpoofing, .critical) := by
  obtain ⟨payload, _, hframe⟩ := bind_eq_ok_iff.mp hframe
  have hcall := Except.ok.inj hframe
  have hid : call.2.canId = EcuMessage.brake.canId := by
    rw [← hcall]
    rfl
  exact known_verdict h (length_payload_le (by rw [← hcall]; rfl)) hid

/-- The verdict on an engine frame of four bytes. -/
theorem engine_verdict
    (h : alertAfter env alertCallbacks slidingWindowSize threatWindowSize alerts pre call =
      some alert) (hid : call.2.canId = canIdEngineRpm) (hdlc : call.2.dlc = 4) :
    (alert.attackType, alert.severity) =
      if gapBefore pre call < 0.0008 then (.dosBusFlood, .critical)
      else (.enginePowertrainSpoofing, .high) :=
  have hid : call.2.canId = EcuMessage.engineRpm.canId := hid
  known_verdict h ((length_payload_le hdlc).trans (by decide)) hid

/-- The verdict on a fuzzing frame. -/
theorem fuzzing_verdict
    (h : alertAfter env alertCallbacks slidingWindowSize threatWindowSize alerts pre call =
      some alert) {draw : FuzzDraw} {now : ℝ} (hframe : call.2 = craftFuzzingFrame draw now) :
    alert.attackType = .payloadFuzzingAttack ↔
      0.0008 ≤ gapBefore pre call ∧ 7 ≤ draw.data.length ∧ draw.data.Nodup := by
  obtain ⟨score, _, htype, _⟩ := alert_classified h
  have hid : call.2.canId ≠ 0 := by
    have hpos := draw.randId_mem.1
    rw [hframe]
    show draw.randId ≠ 0
    omega
  have hpayload : call.2.payload = draw.data := by
    have hdlc : (draw.data.length : ℤ) ⊓ 8 = draw.data.length :=
      min_eq_left (by exact_mod_cast draw.length_mem.2)
    rw [hframe]
    exact CANFrame.payload_of_dlc hdlc.symm
  rw [htype, classify_payloadFuzzing_iff, hpayload, entropy_exceeds_iff draw.length_mem.2,
    or_iff_right hid, fast_iff, not_lt]

/-- **What the engine says about the simulated attacks.** In every run of a fresh detector
with its alert engine, whatever the model answers, whatever else is on the bus: if a call on
one of these frames returns an alert, and `gap` is the time since the last frame of its id (0
for the first), then

- a flood frame of id 0 is a critical flood;
- a spoofed brake frame is critical: a flood if the gap is below 0.8 ms, and brake spoofing
  otherwise;
- an engine kill frame is likewise a flood or engine spoofing;
- a fuzzing frame is reported as fuzzing exactly if the gap is 0.8 ms or more and it has seven
  or eight different bytes;
- a frame of the simulator is never reported as fuzzing or as an unknown id. -/
theorem suite_verdicts
    (h : alertAfter env alertCallbacks slidingWindowSize threatWindowSize alerts pre call =
      some alert) :
    let gap := gapBefore pre call
    (∀ now, call.2 = craftFloodFrame 0x000 now →
        alert.attackType = .dosBusFlood ∧ alert.severity = .critical) ∧
      (∀ brakePct absActive now, craftSpoofBrakeFrame brakePct absActive now = .ok call.2 →
        (alert.attackType, alert.severity) =
          if gap < 0.0008 then (.dosBusFlood, .critical) else (.criticalBrakeSpoofing, .critical)) ∧
      (∀ now, craftSpoofEngineKillFrame now = .ok call.2 →
        (alert.attackType, alert.severity) =
          if gap < 0.0008 then (.dosBusFlood, .critical)
          else (.enginePowertrainSpoofing, .high)) ∧
      (∀ draw now, call.2 = craftFuzzingFrame draw now →
        (alert.attackType = .payloadFuzzingAttack ↔
          0.0008 ≤ gap ∧ 7 ≤ draw.data.length ∧ draw.data.Nodup)) ∧
      (∀ (kind : EcuMessage) (v : VehicleState ℝ) now, call.2 = kind.sent v now →
        alert.attackType ≠ .payloadFuzzingAttack ∧
          alert.attackType ≠ .unauthorizedArbitrationId) := by
  dsimp only
  refine ⟨?_, ?_, ?_, ?_, ?_⟩
  · intro now hframe
    exact flood_verdict h (by rw [hframe]; rfl)
  · intro brakePct absActive now hframe
    exact brake_verdict h hframe
  · intro now hframe
    obtain ⟨payload, _, hframe⟩ := bind_eq_ok_iff.mp hframe
    have hcall := Except.ok.inj hframe
    exact engine_verdict h (by rw [← hcall]; rfl) (by rw [← hcall]; rfl)
  · intro draw now hframe
    exact fuzzing_verdict h hframe
  · intro kind v now hframe
    have hlen : call.2.payload.length ≤ 6 := by
      rw [hframe, kind.payload_sent, length_packedBytes, EcuMessage.calcsize_fmt]
      cases kind <;> decide
    have hid : call.2.canId = kind.canId := by
      rw [hframe]
      rfl
    have hknown := known_verdict h hlen hid
    have htype := congrArg Prod.fst hknown
    dsimp only at htype
    rw [htype]
    by_cases hfast : gapBefore pre call < 0.0008
    · rw [if_pos hfast]
      exact ⟨AttackType.noConfusion, AttackType.noConfusion⟩
    · rw [if_neg hfast]
      cases kind <;> exact ⟨AttackType.noConfusion, AttackType.noConfusion⟩

/-- A spoofed brake frame that the model flags. -/
noncomputable def flaggedSpoof (now : ℝ) : DetectorCall ℝ :=
  (fun _ => .ok (-1, 1),
    CANFrame.new now canIdBrakeOverride [100, 1, 0, 0, 0, 0] (some 6) false false false (some now))

/-- The second of two such frames, a second after the first. -/
theorem suite_verdicts_second :
    ∃ alert, alertAfter (.healthy ℝ) [] 50 20 (AlertSystem.new 100 [] ()) [flaggedSpoof 0]
        (flaggedSpoof 1) = some alert ∧
      alert.attackType = .criticalBrakeSpoofing ∧ alert.severity = .critical := by
  have hdec : (flaggedSpoof 1).2.Decodes :=
    (CANFrame.decodes_iff _).mpr (not_layout (by decide))
  obtain ⟨alert, halert⟩ := @exists_alertAfter _ _ _ (.healthy ℝ) [] 50 20
    (AlertSystem.new 100 [] ()) [flaggedSpoof 0] _ (by decide) hdec _ (fun _ => rfl) rfl
  have hgap : gapBefore [flaggedSpoof 0] (flaggedSpoof 1) = 1 := by
    show elapsed (some 0) (1 : ℝ) = 1
    rw [elapsed_of_le zero_le_one, sub_zero]
  have hverdict := (@suite_verdicts _ _ _ 50 20 _ _ _ _ halert).2.1 100 true 1 rfl
  rw [hgap, if_neg (by norm_num)] at hverdict
  exact ⟨alert, halert, (Prod.ext_iff.mp hverdict).1, (Prod.ext_iff.mp hverdict).2⟩

end Run

end CanSentinel
