import CanSentinel.Parser.Signals
import CanSentinel.Sim.EcuLoops

/-!
# Decoding what the ECUs encode

The parser and the simulator each write down the eight payload layouts.

- `EcuMessage.signals`: what a message says about the state, as decoded signals.
- `decodeSignals_sent`: the parser reads it off seven of the eight kinds of frames.
  The eighth, the transmission frame, it cannot decode at all.
- `decoding_undoes_encoding`: on every kind of frame, whenever decoding returns, it
  returns what was encoded.
-/

namespace CanSentinel

variable {R : Type} [PyFloat R]

/-- The wheel speeds of a brake message. -/
def wheelSpeeds (v : VehicleState R) : String :=
  let speedBase := pyInt v.speedKmh
  let wheelRl := max 0 (speedBase - 1)
  "[" ++ toString speedBase ++ "," ++ toString speedBase ++ "," ++ toString wheelRl ++ "," ++
    toString wheelRl ++ "]"

/-- What the messages of a state say. -/
def EcuMessage.signals (v : VehicleState R) : EcuMessage → Signals R
  | engineRpm =>
    [("rpm", .int (pyInt v.rpm)), ("throttle_pct", .int (pyInt v.throttlePct)),
      ("engine_status", .str "RUNNING")]
  | vehicleSpeed => [("speed_kmh", .float ((pyInt (v.speedKmh * 100.0) : R) / 100.0))]
  | engineTemp =>
    [("coolant_temp_c", .int (pyInt v.engineTempC)), ("oil_pressure_bar", .float 6.6)]
  | transmission =>
    [("gear", .str (if v.gear = 0 then "P/N" else "G" ++ toString v.gear)),
      ("torque_nm", .int (pyInt (v.throttlePct * 3.5))),
      ("clutch", .str (if 0 < v.gear then "ENGAGED" else "DISENGAGED"))]
  | brake =>
    [("brake_pct", .int (pyInt v.brakePct)),
      ("abs_active", .bool (70 < pyInt v.brakePct ∧ 40 < pyInt v.speedKmh)),
      ("wheel_speeds", .str (wheelSpeeds v))]
  | bodyDoors => [("doors_locked", .bool (v.doorsLocked ≠ 0)), ("driver_seatbelt", .bool true)]
  | bodyClimate =>
    [("target_temp_c", .int 22), ("ambient_temp_c", .int 21), ("fan_speed", .int 3),
      ("ac_on", .bool true)]
  | lighting =>
    [("headlights", .str (if v.headlights ≠ 0 then "ON" else "OFF")), ("turn_signal", .str "NONE")]

/-! ## The layouts, one by one -/

theorem toString_toNat {n : ℤ} (h : 0 ≤ n) : toString n.toNat = toString n := by
  obtain ⟨m, rfl⟩ := Int.eq_ofNat_of_zero_le h
  rfl

/-- A flag byte is read back as the flag. -/
theorem ite_toNat_eq_iff (p : Prop) [Decidable p] {a : ℤ} {b : ℕ} (hb : a.toNat = b) (h0 : b ≠ 0) :
    (if p then a else 0).toNat = b ↔ p := by
  by_cases hp : p
  · rw [if_pos hp]
    exact iff_of_true hb hp
  · rw [if_neg hp]
    exact iff_of_false (fun h => h0 h.symm) hp

variable {v : VehicleState R} (h : v.Encodable)

include h

theorem decodeSignals_rpmData :
    decodeSignals canIdEngineRpm (packedBytes .big [.H, .B, .B] (rpmData v)) =
      .ok (EcuMessage.engineRpm.signals v) := by
  have hunpack : structUnpack .big [.H, .B, .B]
      ((packedBytes .big [.H, .B, .B] (rpmData v)).take 4) =
        .ok ((pyInt v.rpm).toNat, (pyInt v.throttlePct).toNat, 1, ()) :=
    structUnpack_packedBytes .big (h.argsFit .engineRpm)
  rw [decodeSignals, if_pos ⟨rfl, by rw [length_packedBytes]; decide⟩, hunpack]
  show Except.ok [("rpm", SignalValue.int ((pyInt v.rpm).toNat : ℤ)),
    ("throttle_pct", .int ((pyInt v.throttlePct).toNat : ℤ)), _] = _
  rw [Int.toNat_of_nonneg h.rpm_mem.1, Int.toNat_of_nonneg h.throttle_mem.1]
  rfl

theorem decodeSignals_speedData :
    decodeSignals canIdVehicleSpeed (packedBytes .big [.H, .B, .B] (speedData v)) =
      .ok (EcuMessage.vehicleSpeed.signals v) := by
  have hfit : ArgsFit [.H] (pyInt (v.speedKmh * 100.0), ()) := ⟨h.speedRaw_mem, trivial⟩
  have hunpack : structUnpack .big [.H]
      ((packedBytes .big [.H, .B, .B] (speedData v)).take 2) =
        .ok ((pyInt (v.speedKmh * 100.0)).toNat, ()) := structUnpack_packedBytes .big hfit
  -- the raw value is a whole number of hundredths, so `round(…, 2)` keeps it
  have hraw : (((pyInt (v.speedKmh * 100.0)).toNat : ℕ) : R) =
      (pyInt (v.speedKmh * 100.0) : R) := by
    exact_mod_cast congrArg (Int.cast (R := R)) (Int.toNat_of_nonneg h.speedRaw_mem.1)
  have hround : pyRound ((pyInt (v.speedKmh * 100.0) : R) / 100.0) 2 =
      (pyInt (v.speedKmh * 100.0) : R) / 100.0 := by
    have hpow : (100.0 : R) = 10 ^ 2 := by norm_num
    rw [hpow, pyRound_div_pow]
  rw [decodeSignals, if_neg (not_layout (by decide)),
    if_pos ⟨rfl, by rw [length_packedBytes]; decide⟩, hunpack]
  show Except.ok [("speed_kmh", SignalValue.float
    (pyRound ((((pyInt (v.speedKmh * 100.0)).toNat : ℕ) : R) / 100.0) 2))] = _
  rw [hraw, hround]
  rfl

theorem decodeSignals_tempData :
    decodeSignals canIdEngineTemp (packedBytes .big [.B, .B, .B] (tempData v)) =
      .ok (EcuMessage.engineTemp.signals v) := by
  have hunpack : structUnpack .big [.B, .B, .B]
      ((packedBytes .big [.B, .B, .B] (tempData v)).take 3) =
        .ok ((pyInt v.engineTempC + 40).toNat, 66, 0, ()) :=
    structUnpack_packedBytes .big (h.argsFit .engineTemp)
  have hoil : pyRound (((66 : ℕ) : R) / 10.0) 1 = 6.6 := by
    have hpow : ((66 : ℕ) : R) / 10.0 = ((66 : ℤ) : R) / 10 ^ 1 := by norm_num
    rw [hpow, pyRound_div_pow]
    norm_num
  rw [decodeSignals, if_neg (not_layout (by decide)), if_neg (not_layout (by decide)),
    if_pos ⟨rfl, by rw [length_packedBytes]; decide⟩, hunpack]
  show Except.ok [("coolant_temp_c", SignalValue.int (((pyInt v.engineTempC + 40).toNat : ℤ) - 40)),
    ("oil_pressure_bar", .float (pyRound (((66 : ℕ) : R) / 10.0) 1))] = _
  rw [hoil, Int.toNat_of_nonneg h.tempRaw_mem.1, add_sub_cancel_right]
  rfl

theorem decodeSignals_brakeData :
    decodeSignals canIdBrakeOverride (packedBytes .big [.B, .B, .B, .B, .B, .B] (brakeData v)) =
      .ok (EcuMessage.brake.signals v) := by
  have hunpack : structUnpack .big [.B, .B, .B, .B, .B, .B]
      ((packedBytes .big [.B, .B, .B, .B, .B, .B] (brakeData v)).take 6) =
        .ok ((pyInt v.brakePct).toNat,
          (if 70 < pyInt v.brakePct ∧ 40 < pyInt v.speedKmh then (1 : ℤ) else 0).toNat,
          (pyInt v.speedKmh).toNat, (pyInt v.speedKmh).toNat,
          (max 0 (pyInt v.speedKmh - 1)).toNat, (max 0 (pyInt v.speedKmh - 1)).toNat, ()) :=
    structUnpack_packedBytes .big (h.argsFit .brake)
  have habs : decide ((if 70 < pyInt v.brakePct ∧ 40 < pyInt v.speedKmh then (1 : ℤ) else 0).toNat
      ≠ 0) = decide (70 < pyInt v.brakePct ∧ 40 < pyInt v.speedKmh) := by
    split
    · next hon => rw [decide_eq_true hon]; rfl
    · next hoff => rw [decide_eq_false hoff]; rfl
  rw [decodeSignals, if_neg (not_layout (by decide)), if_neg (not_layout (by decide)),
    if_neg (not_layout (by decide)), if_neg (not_layout (by decide)),
    if_pos ⟨rfl, by rw [length_packedBytes]; decide⟩, hunpack]
  show Except.ok [("brake_pct", SignalValue.int ((pyInt v.brakePct).toNat : ℤ)),
    ("abs_active", .bool (decide (_ ≠ 0))),
    ("wheel_speeds", .str ("[" ++ toString (pyInt v.speedKmh).toNat ++ "," ++
      toString (pyInt v.speedKmh).toNat ++ "," ++ toString (max 0 (pyInt v.speedKmh - 1)).toNat ++
      "," ++ toString (max 0 (pyInt v.speedKmh - 1)).toNat ++ "]"))] = _
  rw [habs, Int.toNat_of_nonneg h.brake_mem.1, toString_toNat h.speed_mem.1,
    toString_toNat (le_max_left 0 (pyInt v.speedKmh - 1))]
  rfl

omit h in
theorem decodeSignals_doorData (v : VehicleState R) :
    decodeSignals canIdBodyDoors (packedBytes .big [.B, .B, .B, .B] (doorData v)) =
      .ok (EcuMessage.bodyDoors.signals v) := by
  have hfit : ArgsFit [.B, .B, .B] (if v.doorsLocked ≠ 0 then 0xFF else 0x00, 0x00, 0x01, ()) :=
    ⟨ite_fits _ (by decide) (by decide), by decide, by decide, trivial⟩
  have hunpack : structUnpack .big [.B, .B, .B]
      ((packedBytes .big [.B, .B, .B, .B] (doorData v)).take 3) =
        .ok ((if v.doorsLocked ≠ 0 then (0xFF : ℤ) else 0x00).toNat, 0, 1, ()) :=
    structUnpack_packedBytes .big hfit
  rw [decodeSignals, if_neg (not_layout (by decide)), if_neg (not_layout (by decide)),
    if_neg (not_layout (by decide)), if_neg (not_layout (by decide)),
    if_neg (not_layout (by decide)), if_pos ⟨rfl, by rw [length_packedBytes]; decide⟩, hunpack]
  show Except.ok [("doors_locked", SignalValue.bool (decide (_ = 0xFF))), _] = _
  rw [decide_eq_decide.mpr (ite_toNat_eq_iff (v.doorsLocked ≠ 0) (by decide) (by decide))]
  rfl

omit h in
theorem decodeSignals_climateData (v : VehicleState R) :
    decodeSignals canIdBodyClimate (packedBytes .big [.B, .B, .B, .B] climateData) =
      .ok (EcuMessage.bodyClimate.signals v) := rfl

omit h in
theorem decodeSignals_lightData (v : VehicleState R) :
    decodeSignals canIdLighting (packedBytes .big [.B, .B] (lightData v)) =
      .ok (EcuMessage.lighting.signals v) := by
  have hfit : ArgsFit [.B, .B] (if v.headlights ≠ 0 then 0x01 else 0x00, 0x00, ()) :=
    ⟨ite_fits _ (by decide) (by decide), by decide, trivial⟩
  have hunpack : structUnpack .big [.B, .B] ((packedBytes .big [.B, .B] (lightData v)).take 2) =
      .ok ((if v.headlights ≠ 0 then (0x01 : ℤ) else 0x00).toNat, 0, ()) :=
    structUnpack_packedBytes .big hfit
  rw [decodeSignals, if_neg (not_layout (by decide)), if_neg (not_layout (by decide)),
    if_neg (not_layout (by decide)), if_neg (not_layout (by decide)),
    if_neg (not_layout (by decide)), if_neg (not_layout (by decide)),
    if_neg (not_layout (by decide)), if_pos ⟨rfl, by rw [length_packedBytes]; decide⟩, hunpack]
  show Except.ok [("headlights", SignalValue.str (if _ = 1 then "ON" else "OFF")), _] = _
  rw [if_congr (ite_toNat_eq_iff (v.headlights ≠ 0) (by decide) (by decide)) rfl rfl]
  rfl

/-! ## The kinds together -/

omit h in
/-- The payload of a frame that goes out is all of its data. -/
theorem EcuMessage.payload_sent (kind : EcuMessage) (now : R) :
    (kind.sent v now).payload = packedBytes .big kind.fmt (kind.args v) := by
  have hdlc : (kind.sent v now).dlc = kind.dlc := frame_dlc kind now _
  have hlen := kind.length_sent v now
  rw [CANFrame.payload, hdlc, pySlice_of_nonneg _ (Int.natCast_nonneg _), Int.toNat_natCast,
    List.take_of_length_le hlen.le]
  rfl

/-- Every frame but the transmission frame is decoded to what its message says. -/
theorem decodeSignals_sent (kind : EcuMessage) (now : R) (hkind : kind ≠ .transmission) :
    decodeSignals (kind.sent v now).canId (kind.sent v now).payload = .ok (kind.signals v) := by
  rw [kind.payload_sent]
  cases kind with
  | engineRpm => exact decodeSignals_rpmData h
  | vehicleSpeed => exact decodeSignals_speedData h
  | engineTemp => exact decodeSignals_tempData h
  | transmission => exact absurd rfl hkind
  | brake => exact decodeSignals_brakeData h
  | bodyDoors => exact decodeSignals_doorData v
  | bodyClimate => exact decodeSignals_climateData v
  | lighting => exact decodeSignals_lightData v

omit h in
/-- The parser raises on every transmission frame of the simulator. -/
theorem decodeSignals_sent_transmission (v : VehicleState R) (now : R) :
    (decodeSignals (EcuMessage.transmission.sent v now).canId
      (EcuMessage.transmission.sent v now).payload : Except PyError (Signals R)) =
        .error (.structError "unpack requires a buffer of 5 bytes") := by
  refine decodeSignals_transmission _ ?_
  rw [EcuMessage.payload_sent, length_packedBytes]
  decide

/-- **Decoding undoes encoding.** -/
theorem decoding_undoes_encoding (kind : EcuMessage) (now : R) :
    ∃ frame, kind.attempt v now = .ok frame ∧
      (kind ≠ .transmission → decodeSignals frame.canId frame.payload = .ok (kind.signals v)) ∧
      ∀ signals, decodeSignals frame.canId frame.payload = .ok signals →
        signals = kind.signals v := by
  refine ⟨_, kind.attempt_of_encodable h now, decodeSignals_sent h kind now, ?_⟩
  intro signals hsignals
  by_cases hkind : kind = .transmission
  · subst hkind
    rw [decodeSignals_sent_transmission] at hsignals
    cases hsignals
  · rw [decodeSignals_sent h kind now hkind] at hsignals
    exact (Except.ok.inj hsignals).symm

omit h v

theorem decoding_undoes_encoding_cityCar :
    ∃ frame, EcuMessage.vehicleSpeed.attempt cityCar 0 = .ok frame ∧
      (EcuMessage.vehicleSpeed ≠ .transmission → decodeSignals frame.canId frame.payload =
        .ok (EcuMessage.vehicleSpeed.signals cityCar)) ∧
      ∀ signals, decodeSignals frame.canId frame.payload = .ok signals →
        signals = EcuMessage.vehicleSpeed.signals cityCar :=
  decoding_undoes_encoding cityCar_encodable .vehicleSpeed 0

end CanSentinel
