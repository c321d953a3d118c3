import CanSentinel.Detection.StreamDetector

/-!
# The alert engine (`detection/alert_engine.py`)

`AlertEngine.evaluateDetection` turns a flagged detection into a classified
`SecurityAlert`, keeps it in a bounded history, appends it to the log file and
passes it to the alert callbacks.

- `AlertEnv`: what the engine asks of its surroundings — formatting a time stamp
  and appending a line to the log — either of which may raise.
- `classify`: the heuristic rules, in the order of the source.
- `evaluateDetection_normal`, `evaluateDetection_anomaly`: what a call does.
-/

namespace CanSentinel

variable {R : Type} [PyFloat R]

/-- The severities of an alert and the criticalities of an ECU. -/
inductive Severity where
  | low
  | medium
  | high
  | critical
deriving DecidableEq

def Severity.text : Severity → String
  | .low => "LOW"
  | .medium => "MEDIUM"
  | .high => "HIGH"
  | .critical => "CRITICAL"

/-- The verdicts of the heuristic classification. -/
inductive AttackType where
  | dosBusFlood
  | payloadFuzzingAttack
  | criticalBrakeSpoofing
  | enginePowertrainSpoofing
  | unauthorizedArbitrationId
  | statisticalTimingAnomaly
deriving DecidableEq

def AttackType.text : AttackType → String
  | .dosBusFlood => "DOS_BUS_FLOOD"
  | .payloadFuzzingAttack => "PAYLOAD_FUZZING_ATTACK"
  | .criticalBrakeSpoofing => "CRITICAL_BRAKE_SPOOFING"
  | .enginePowertrainSpoofing => "ENGINE_POWERTRAIN_SPOOFING"
  | .unauthorizedArbitrationId => "UNAUTHORIZED_ARBITRATION_ID"
  | .statisticalTimingAnomaly => "STATISTICAL_TIMING_ANOMALY"

/-- An entry of `ECU_SUBSYSTEM_MAP`. -/
structure SubsystemInfo where
  subsystem : String
  node : String
  criticality : Severity
deriving DecidableEq

/-- `ECU_SUBSYSTEM_MAP`. -/
def ecuSubsystemMap : List (ℤ × SubsystemInfo) :=
  [(canIdBrakeOverride, ⟨"Braking & Stability Control", "Brake ECU (0x0A0)", .critical⟩),
    (canIdEngineRpm, ⟨"Powertrain Engine", "Engine ECU (0x110)", .high⟩),
    (canIdVehicleSpeed, ⟨"Chassis & Speedometer", "Speed ECU (0x120)", .high⟩),
    (canIdEngineTemp, ⟨"Engine Thermal Management", "Temp ECU (0x130)", .medium⟩),
    (canIdTransmission, ⟨"Drivetrain & Gearbox", "Trans ECU (0x180)", .high⟩),
    (canIdBodyDoors, ⟨"Body & Security", "Body ECU (0x230)", .medium⟩),
    (canIdBodyClimate, ⟨"Interior Climate", "HVAC ECU (0x240)", .low⟩),
    (canIdLighting, ⟨"External Lighting", "Lighting (0x270)", .low⟩)]

/-- `SecurityAlert`. -/
structure SecurityAlert (R : Type) where
  alertId : String
  timestamp : R
  timestampIso : String
  canId : ℤ
  canIdHex : String
  targetNode : String
  targetSubsystem : String
  attackType : AttackType
  severity : Severity
  anomalyScore : R
  threatDensityPct : R
  payloadHex : String
  entropy : R
  deltaTMs : R
  evidence : String
  recommendedMitigation : String
deriving DecidableEq

/-- The values of a JSON object of the log. -/
inductive JsonValue (R : Type) where
  | int (n : ℤ)
  | float (x : R)
  | str (s : String)
deriving DecidableEq

/-- A line of the log: `json.dumps` of a dict. -/
abbrev JsonObject (R : Type) := List (String × JsonValue R)

omit [PyFloat R] in
/-- `SecurityAlert.to_dict`. -/
def SecurityAlert.toDict (self : SecurityAlert R) : JsonObject R :=
  [("alert_id", .str self.alertId),
    ("timestamp", .float self.timestamp),
    ("timestamp_iso", .str self.timestampIso),
    ("can_id", .int self.canId),
    ("can_id_hex", .str self.canIdHex),
    ("target_node", .str self.targetNode),
    ("target_subsystem", .str self.targetSubsystem),
    ("attack_type", .str self.attackType.text),
    ("severity", .str self.severity.text),
    ("anomaly_score", .float self.anomalyScore),
    ("threat_density_pct", .float self.threatDensityPct),
    ("payload_hex", .str self.payloadHex),
    ("entropy", .float self.entropy),
    ("delta_t_ms", .float self.deltaTMs),
    ("evidence", .str self.evidence),
    ("recommended_mitigation", .str self.recommendedMitigation)]

/-! ## Classification -/

/-- The outcome of the heuristic classification. -/
structure Classification where
  attackType : AttackType
  severity : Severity
  evidence : String
  mitigation : String
deriving DecidableEq

/-- The subsystem of an id; unknown ids are rogue nodes. -/
def subsystemOf (canId : ℤ) : SubsystemInfo :=
  (ecuSubsystemMap.lookup canId).getD
    ⟨"Unauthorized / External Bus Node", "Rogue ID 0x" ++ fmtHex canId 3, .high⟩

/-- The heuristic attack classification, first match wins. -/
def classify (canId : ℤ) (deltaTMs entropy anomalyScore : R) : Classification :=
  if canId = 0x000 ∨ deltaTMs < 0.8 then
    ⟨.dosBusFlood, .critical,
      "Ultra-high transmission rate detected (Δt = " ++ fmtFixed deltaTMs 2 ++
        " ms). Bus arbitration monopolized.",
      "Activate CAN Bus-Off error frame barrier; isolate rogue gateway node."⟩
  else if 2.75 < entropy then
    ⟨.payloadFuzzingAttack, .high,
      "Abnormal payload byte Shannon entropy (H = " ++ fmtFixed entropy 2 ++
        " bits). Random diagnostic fuzzing detected.",
      "Filter unauthorized diagnostic packets; rate-limit non-essential frames."⟩
  else if canId = canIdBrakeOverride then
    ⟨.criticalBrakeSpoofing, .critical,
      "Spoofed Brake ECU frame detected with irregular timing or unexpected brake override state.",
      "Trigger ABS failsafe lock; suppress rogue 0x0A0 arbitration slot."⟩
  else if canId = canIdEngineRpm then
    ⟨.enginePowertrainSpoofing, .high,
      "Inconsistent engine RPM/throttle telemetry sequence detected.",
      "Cross-validate RPM signal against wheel speeds."⟩
  else if (ecuSubsystemMap.lookup canId).isNone then
    ⟨.unauthorizedArbitrationId, .high,
      "Unregistered CAN arbitration identifier 0x" ++ fmtHex canId 3 ++
        " transmitting onto vehicle bus.",
      "Enforce hardware CAN acceptance ID whitelist."⟩
  else
    ⟨.statisticalTimingAnomaly, (subsystemOf canId).criticality,
      "Isolation Forest anomaly score (" ++ fmtFixed anomalyScore 4 ++
        ") breached baseline confidence threshold.",
      "Log forensic frame and verify ECU clock synchronization."⟩

/-- A flood verdict is about id 0 or a short inter-arrival time. -/
theorem classify_dosBusFlood_iff (canId : ℤ) (deltaTMs entropy anomalyScore : R) :
    (classify canId deltaTMs entropy anomalyScore).attackType = .dosBusFlood ↔
      canId = 0 ∨ deltaTMs < 0.8 := by
  rw [classify]
  by_cases h : canId = 0 ∨ deltaTMs < 0.8
  · rw [if_pos h]
    exact iff_of_true rfl h
  · rw [if_neg h]
    refine iff_of_false ?_ h
    repeat' split
    all_goals exact AttackType.noConfusion

/-! ## The engine -/

/-- `AlertEngine`; `recentAlerts.maxlen` is `max_history`. -/
structure AlertEngine (R : Type) where
  recentAlerts : Deque (SecurityAlert R)
  alertCounter : ℕ

/-- The surroundings of the engine: `time.strftime(…, time.gmtime(t))`, and
opening the log and appending a line to it. -/
structure AlertEnv (R : Type) where
  isoTime : R → Except PyError String
  appendLine : JsonObject R → List (JsonObject R) → Except PyError Unit × List (JsonObject R)

/-- Surroundings in which nothing fails, within the first second of the epoch. -/
def AlertEnv.healthy (R : Type) : AlertEnv R where
  isoTime _ := .ok "1970-01-01T00:00:00Z"
  appendLine line log := (.ok (), log ++ [line])

/-- The engine with its log file and its callbacks, which act on a world `U`. -/
structure AlertSystem (R U : Type) where
  engine : AlertEngine R
  log : List (JsonObject R)
  subs : Subscribers U (SecurityAlert R)

namespace AlertSystem

variable {U : Type}

/-- `AlertEngine.__init__`, on a log that may hold earlier lines. -/
def new (maxHistory : ℕ) (log : List (JsonObject R)) (world : U) : AlertSystem R U :=
  ⟨⟨Deque.empty _ maxHistory, 0⟩, log, ⟨world, []⟩⟩

/-- The alert built for a detection when the counter stands at `number`. -/
def alertOf (number : ℕ) (iso : String) (detection : DetectionResult R) : SecurityAlert R :=
  let canId := detection.frame.canId
  let deltaTMs := detection.parsed.deltaT * 1000.0
  let verdict := classify canId deltaTMs detection.parsed.entropy detection.anomalyScore
  { alertId := "ALERT-" ++ fmtDec number 6
    timestamp := detection.timestamp
    timestampIso := iso
    canId := canId
    canIdHex := "0x" ++ fmtHex canId 3
    targetNode := (subsystemOf canId).node
    targetSubsystem := (subsystemOf canId).subsystem
    attackType := verdict.attackType
    severity := verdict.severity
    anomalyScore := pyRound detection.anomalyScore 6
    threatDensityPct := pyRound detection.threatDensity 2
    payloadHex := detection.parsed.payloadHex
    entropy := pyRound detection.parsed.entropy 4
    deltaTMs := pyRound deltaTMs 3
    evidence := verdict.evidence
    recommendedMitigation := verdict.mitigation }

/-- `AlertEngine._record_alert`. A failing write is reported and skipped. -/
def recordAlert (env : AlertEnv R) (self : AlertSystem R U) (alert : SecurityAlert R) :
    AlertSystem R U :=
  let engine := { self.engine with recentAlerts := self.engine.recentAlerts.append alert }
  match env.appendLine alert.toDict self.log with
  | (.ok (), log) => { self with engine := engine, log := log }
  | (.error _, log) => { self with engine := engine, log := log }

/-- `AlertEngine.evaluate_detection`. -/
def evaluateDetection (env : AlertEnv R) (alertCallbacks : List (Callback PyError U (SecurityAlert R)))
    (self : AlertSystem R U) (detection : DetectionResult R) :
    Except PyError (Option (SecurityAlert R)) × AlertSystem R U :=
  if detection.isAnomaly then
    let self := { self with
      engine := { self.engine with alertCounter := self.engine.alertCounter + 1 } }
    match env.isoTime detection.timestamp with
    -- the counter has moved, the alert is not built
    | .error e => (.error e, self)
    | .ok iso =>
      let alert := alertOf self.engine.alertCounter iso detection
      let self := self.recordAlert env alert
      (.ok (some alert), { self with subs := self.subs.notify alertCallbacks alert })
  else (.ok none, self)

/-- `evaluate_detection` as a detection callback. -/
def callback (env : AlertEnv R) (alertCallbacks : List (Callback PyError U (SecurityAlert R))) :
    Callback PyError (AlertSystem R U) (DetectionResult R) := fun detection self =>
  let (out, self) := self.evaluateDetection env alertCallbacks detection
  (out.map fun _ => (), self)

/-- A detection callback of another component: it acts on the world `U`. -/
def bystander (cb : Callback PyError U (DetectionResult R)) :
    Callback PyError (AlertSystem R U) (DetectionResult R) := fun detection self =>
  let (out, world) := cb detection self.subs.world
  (out, { self with subs := ⟨world, self.subs.calls⟩ })

variable (env : AlertEnv R) (alertCallbacks : List (Callback PyError U (SecurityAlert R)))

/-- A detection that is not flagged changes nothing. -/
theorem evaluateDetection_normal (self : AlertSystem R U) {detection : DetectionResult R}
    (h : detection.isAnomaly = false) :
    self.evaluateDetection env alertCallbacks detection = (.ok none, self) := by
  rw [evaluateDetection, h, if_neg Bool.false_ne_true]

/-- Whether and which alert a call returns. -/
theorem evaluateDetection_eq_some_iff (self : AlertSystem R U) (detection : DetectionResult R)
    (alert : SecurityAlert R) :
    (self.evaluateDetection env alertCallbacks detection).1 = .ok (some alert) ↔
      detection.isAnomaly = true ∧ ∃ iso, env.isoTime detection.timestamp = .ok iso ∧
        alert = alertOf (self.engine.alertCounter + 1) iso detection := by
  rw [evaluateDetection]
  by_cases hanom : detection.isAnomaly
  · rw [if_pos hanom]
    cases hiso : env.isoTime detection.timestamp with
    | error e => simp
    | ok iso => simp [hanom, eq_comm]
  · rw [if_neg hanom]
    simp [hanom]

/-- A flagged detection whose time can be formatted, on a log that can be written:
the counter moves by one, the alert is kept, logged and dispatched. -/
theorem evaluateDetection_anomaly (self : AlertSystem R U) {detection : DetectionResult R}
    (h : detection.isAnomaly = true) {iso : String}
    (hiso : env.isoTime detection.timestamp = .ok iso)
    (hlog : ∀ line log, env.appendLine line log = (.ok (), log ++ [line])) :
    let alert := alertOf (self.engine.alertCounter + 1) iso detection
    self.evaluateDetection env alertCallbacks detection = (.ok (some alert),
      { engine := ⟨self.engine.recentAlerts.append alert, self.engine.alertCounter + 1⟩
        log := self.log ++ [alert.toDict]
        subs := self.subs.notify alertCallbacks alert }) := by
  rw [evaluateDetection, if_pos h]
  dsimp only
  rw [hiso]
  dsimp only
  rw [recordAlert, hlog]

end AlertSystem

end CanSentinel
