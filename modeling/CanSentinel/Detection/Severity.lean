import CanSentinel.Detection.Flood

/-!
# Severity and criticality

`ECU_SUBSYSTEM_MAP` assigns every ECU a criticality, and the heuristic chain
assigns every alert a severity. Only the last branch of the chain reads the
criticality; the branches above it are written for one kind of attack each, and
the fuzzing branch stands above the one for the brake ECU.

- `CoversEcu`: an alert is at least as severe as its ECU is critical.
- `classify_covers_iff`: the chain understates the brake ECU in its fuzzing branch
  and nothing else.
- `severity_covers_iff`: the same about the alerts `evaluate_detection` returns.
-/

namespace CanSentinel

variable {R U : Type} [PyFloat R]

/-- `LOW < MEDIUM < HIGH < CRITICAL`. -/
def Severity.rank : Severity → ℕ
  | .low => 0
  | .medium => 1
  | .high => 2
  | .critical => 3

theorem Severity.rank_injective : Function.Injective Severity.rank := by
  intro a b h
  cases a <;> cases b <;> first | rfl | cases h

instance : LinearOrder Severity := LinearOrder.lift' Severity.rank Severity.rank_injective

theorem Severity.le_critical (s : Severity) : s ≤ .critical := by
  cases s <;> decide

/-- An alert is at least as severe as the map says its ECU is critical, and at
least `HIGH` for an id the map does not know. -/
def CoversEcu (alert : SecurityAlert R) : Prop :=
  match ecuSubsystemMap.lookup alert.canId with
  | some info => info.criticality ≤ alert.severity
  | none => .high ≤ alert.severity

instance (alert : SecurityAlert R) : Decidable (CoversEcu alert) := by
  unfold CoversEcu
  split <;> infer_instance

omit [PyFloat R] in
/-- The default that `evaluate_detection` looks an unknown id up with is `HIGH`. -/
theorem coversEcu_iff (alert : SecurityAlert R) :
    CoversEcu alert ↔ (subsystemOf alert.canId).criticality ≤ alert.severity := by
  unfold CoversEcu subsystemOf
  split <;> next h => rw [h]; rfl

/-- No ECU but the brake is critical. -/
theorem criticality_le_high {canId : ℤ} (h : canId ≠ canIdBrakeOverride) :
    (subsystemOf canId).criticality ≤ .high := by
  unfold subsystemOf
  cases hmap : ecuSubsystemMap.lookup canId with
  | none => exact le_refl _
  | some info =>
    obtain ⟨before, after, hsplit, _⟩ := List.lookup_eq_some_iff.mp hmap
    have hmem : (canId, info) ∈ ecuSubsystemMap := by
      rw [hsplit]
      exact List.mem_append_right before List.mem_cons_self
    have hall : ∀ entry ∈ ecuSubsystemMap,
        entry.1 ≠ canIdBrakeOverride → entry.2.criticality ≤ .high := by decide
    exact hall _ hmem h

/-- The input on which the chain takes the fuzzing branch for a brake frame. -/
def FuzzedBrake (canId : ℤ) (deltaTMs entropy : R) : Prop :=
  canId = canIdBrakeOverride ∧ 0.8 ≤ deltaTMs ∧ 2.75 < entropy

/-- **The chain, branch by branch**: a verdict covers the criticality of the id
except where the fuzzing branch shadows the brake branch. -/
theorem classify_covers_iff (canId : ℤ) (deltaTMs entropy anomalyScore : R) :
    (subsystemOf canId).criticality ≤ (classify canId deltaTMs entropy anomalyScore).severity ↔
      ¬ FuzzedBrake canId deltaTMs entropy := by
  unfold classify FuzzedBrake
  by_cases hflood : canId = 0x000 ∨ deltaTMs < 0.8
  · rw [if_pos hflood]
    refine iff_of_true (Severity.le_critical _) ?_
    rintro ⟨rfl, hslow, _⟩
    rcases hflood with hzero | hfast
    · exact absurd hzero (by decide)
    · exact absurd hfast (not_lt.mpr hslow)
  · rw [if_neg hflood]
    obtain ⟨_, hslow⟩ := not_or.mp hflood
    by_cases hfuzz : 2.75 < entropy
    · rw [if_pos hfuzz]
      -- the verdict here is `HIGH`, whatever the id
      by_cases hbrake : canId = canIdBrakeOverride
      · subst hbrake
        have hless : ¬ (subsystemOf canIdBrakeOverride).criticality ≤ .high := by decide
        refine iff_of_false hless ?_
        intro hnot
        exact hnot ⟨rfl, not_lt.mp hslow, hfuzz⟩
      · exact iff_of_true (criticality_le_high hbrake) fun h => hbrake h.1
    · rw [if_neg hfuzz]
      refine iff_of_true ?_ fun h => hfuzz h.2.2
      by_cases hbrake : canId = canIdBrakeOverride
      · rw [if_pos hbrake]
        exact Severity.le_critical _
      · rw [if_neg hbrake]
        -- the engine and the unknown-id branch say `HIGH`, the last one the criticality
        repeat' split
        · exact criticality_le_high hbrake
        · exact criticality_le_high hbrake
        · exact le_refl _

/-- **When an alert covers its ECU.** -/
theorem severity_covers_iff (env : AlertEnv R)
    (alertCallbacks : List (Callback PyError U (SecurityAlert R))) (self : AlertSystem R U)
    (detection : DetectionResult R) (alert : SecurityAlert R)
    (h : (self.evaluateDetection env alertCallbacks detection).1 = .ok (some alert)) :
    CoversEcu alert ↔
      ¬ FuzzedBrake detection.frame.canId (detection.parsed.deltaT * 1000.0)
        detection.parsed.entropy := by
  obtain ⟨_, iso, _, rfl⟩ :=
    (self.evaluateDetection_eq_some_iff env alertCallbacks detection alert).mp h
  rw [coversEcu_iff]
  exact classify_covers_iff _ _ _ _

/-- A flagged frame of the doors, the first of its id. -/
def flaggedDoors : DetectionResult ℚ :=
  (StreamAnomalyDetector.new 50 20).resultOf
    (CANFrame.new 0 canIdBodyDoors [0xFF, 0, 1, 0] (some 4) false false false (some 1)) []
    (-1) (7 / 10)

theorem severity_covers_iff_doors :
    let alert := AlertSystem.alertOf 1 "1970-01-01T00:00:00Z" flaggedDoors
    CoversEcu alert ↔ ¬ FuzzedBrake flaggedDoors.frame.canId
      (flaggedDoors.parsed.deltaT * 1000.0) flaggedDoors.parsed.entropy :=
  severity_covers_iff (.healthy ℚ) [] (AlertSystem.new 100 [] ()) flaggedDoors _ rfl

/-- A brake frame of eight different bytes. -/
def fuzzedBrakeCall (timestamp : ℚ) : StreamAnomalyDetector.DetectorCall ℚ :=
  (fun _ => .ok (-1, 7 / 10), CANFrame.new 0 canIdBrakeOverride
    [0x9C, 0x11, 0x4E, 0xD3, 0x07, 0xB8, 0x62, 0xFA] (some 8) false false false (some timestamp))

/-- The second of two such frames, 10 ms apart, is a `HIGH` alert about a `CRITICAL`
ECU. -/
theorem fuzzed_brake_understated :
    let calls := [fuzzedBrakeCall 1, fuzzedBrakeCall (101 / 100)]
    let s : StreamAnomalyDetector ℚ × AlertSystem ℚ Unit :=
      (StreamAnomalyDetector.new 50 20, AlertSystem.new 100 [] ())
    (Machine.outputs (monitorCall (.healthy ℚ) []) s calls).map
        (fun alert => alert.map fun a => (a.canId, a.attackType, a.severity, decide (CoversEcu a))) =
      [some (canIdBrakeOverride, .dosBusFlood, .critical, true),
        some (canIdBrakeOverride, .payloadFuzzingAttack, .high, false)] := by
  decide +kernel

end CanSentinel
