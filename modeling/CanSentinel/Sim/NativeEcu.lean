import CanSentinel.Ipc.Record
import CanSentinel.Sim.EcuLoops

/-!
# The C simulator (`c/ecu_sim.c`)

`ecu_sim.c` has the same four ECUs as threads over a socket. Its conversions wrap
where `struct.pack` checks, its tick is an `int`, and some expressions are
written differently.

- `C.engineEcuThread`, …, `C.bodyEcuThread`: the frames an iteration hands to
  `transmit_frame`.
- `C.native_frames_eq`: on every state in range and at every tick these are the
  frames the Python loop broadcasts: same ids, DLCs and payloads.
-/

namespace CanSentinel

variable {R : Type} [PyFloat R]

/-- What a Python frame puts on the wire. -/
def CANFrame.wire {R : Type} (frame : CANFrame R) : ℤ × ℤ × Bytes :=
  (frame.canId, frame.dlc, frame.data)

namespace C

/-- `vehicle_state_t`, without the steering angle, which no ECU reads. -/
structure VehicleState (R : Type) where
  speedKmh : R
  rpm : R
  engineTempC : R
  throttlePct : R
  brakePct : R
  gear : UInt8
  doorsLocked : UInt8
  headlights : UInt8

def canIdBrakeOverride : UInt32 := 0x0A0
def canIdEngineRpm : UInt32 := 0x110
def canIdVehicleSpeed : UInt32 := 0x120
def canIdEngineTemp : UInt32 := 0x130
def canIdTransmission : UInt32 := 0x180
def canIdBodyDoors : UInt32 := 0x230
def canIdBodyClimate : UInt32 := 0x240
def canIdLighting : UInt32 := 0x270

/-! ## Conversions -/

/-- `(uint8_t)x` of a `double`: truncation towards zero, then the low byte. -/
def castU8 (x : R) : UInt8 := UInt8.ofInt (pyInt x)

/-- `(uint16_t)x` of a `double`. -/
def castU16 (x : R) : UInt16 := UInt16.ofInt (pyInt x)

/-- `(int8_t)x` of a `double`. -/
def castI8 (x : R) : Int8 := Int8.ofInt (pyInt x)

/-- `{(uint8_t)(n >> 8), (uint8_t)(n & 0xFF)}`. -/
def highLow (n : UInt16) : Bytes := [(n >>> 8).toUInt8, (n &&& 0xFF).toUInt8]

/-! ## Payload arrays -/

section Payloads

variable (vehicle : VehicleState R)

def rpmPayload : ByteArray 4 :=
  let rpmVal := castU16 vehicle.rpm
  let throttleVal := castU8 vehicle.throttlePct
  ⟨highLow rpmVal ++ [throttleVal, 0x01], rfl⟩

def speedPayload : ByteArray 4 :=
  let speedRaw := castU16 (vehicle.speedKmh * 100.0)
  ⟨highLow speedRaw ++ [0x00, 0x4A], rfl⟩

/-- `temp_val + 40` is computed in `int`. -/
def tempPayload : ByteArray 3 :=
  let tempVal := castI8 vehicle.engineTempC
  ⟨[UInt8.ofInt (tempVal.toInt + 40), 0x42, 0x00], rfl⟩

def transPayload : ByteArray 5 :=
  let currentGear := vehicle.gear
  let torqueNm := castU16 (vehicle.throttlePct * 3.5)
  ⟨[currentGear] ++ highLow torqueNm ++ [if 0 < currentGear then 0x01 else 0x00, 0x00], rfl⟩

def brakePayload : ByteArray 6 :=
  let brakeVal := castU8 vehicle.brakePct
  let speedBase := castU8 vehicle.speedKmh
  let absActive := if 70 < brakeVal ∧ 40 < speedBase then 0x01 else 0x00
  ⟨[brakeVal, absActive, speedBase, speedBase, if 1 < speedBase then speedBase - 1 else 0,
    if 1 < speedBase then speedBase - 1 else 0], rfl⟩

def doorPayload : ByteArray 4 :=
  let doors := vehicle.doorsLocked
  ⟨[if doors ≠ 0 then 0xFF else 0x00, 0x00, 0x01, 0x00], rfl⟩

def climatePayload : ByteArray 4 := ⟨[22, 21, 0x03, 0x01], rfl⟩

def lightPayload : ByteArray 2 :=
  let lights := vehicle.headlights
  ⟨[if lights ≠ 0 then 0x01 else 0x00, 0x00], rfl⟩

end Payloads

/-! ## Threads -/

/-- `can_craft_frame(&frame, can_id, dlc, payload, 0, 0)` with an array of `dlc` bytes. -/
def craft (canId : UInt32) (dlc : UInt8) {k : ℕ} (payload : ByteArray k) (h : dlc.toNat = k) :
    CanFrame :=
  canCraftFrame canId dlc (some payload.1) false false (by
    rintro src ⟨⟩
    rw [payload.2, h]
    exact min_le_left _ _)

/-- What a socket frame puts on the wire. -/
def CanFrame.wire (frame : CanFrame) : ℤ × ℤ × Bytes :=
  (frame.canId.toNat, frame.canDlc.toNat, frame.data.1.take frame.canDlc.toNat)

section Threads

variable (vehicle : VehicleState R)

/-- An iteration of `engine_ecu_thread`. -/
def engineEcuThread (tick : Int32) : List CanFrame :=
  [craft canIdEngineRpm 4 (rpmPayload vehicle) rfl] ++
    (if tick % 2 = 0 then [craft canIdVehicleSpeed 4 (speedPayload vehicle) rfl] else []) ++
    (if tick % 5 = 0 then [craft canIdEngineTemp 3 (tempPayload vehicle) rfl] else [])

/-- An iteration of `transmission_ecu_thread`. -/
def transmissionEcuThread : List CanFrame :=
  [craft canIdTransmission 5 (transPayload vehicle) rfl]

/-- An iteration of `brake_ecu_thread`. -/
def brakeEcuThread : List CanFrame := [craft canIdBrakeOverride 6 (brakePayload vehicle) rfl]

/-- An iteration of `body_ecu_thread`. -/
def bodyEcuThread (tick : Int32) : List CanFrame :=
  [craft canIdBodyDoors 4 (doorPayload vehicle) rfl] ++
    (if tick % 2 = 0 then [craft canIdBodyClimate 4 climatePayload rfl] else []) ++
    [craft canIdLighting 2 (lightPayload vehicle) rfl]

end Threads

/-! ## The same state in both simulators -/

/-- Both simulators are in the same state. -/
structure SameVehicle (v : CanSentinel.VehicleState R) (c : VehicleState R) : Prop where
  speedKmh : v.speedKmh = c.speedKmh
  rpm : v.rpm = c.rpm
  engineTempC : v.engineTempC = c.engineTempC
  throttlePct : v.throttlePct = c.throttlePct
  brakePct : v.brakePct = c.brakePct
  gear : v.gear = c.gear.toNat
  doorsLocked : v.doorsLocked = c.doorsLocked.toNat
  headlights : v.headlights = c.headlights.toNat

/-- The states on which no C conversion leaves its type. -/
structure VehicleState.InRange (c : VehicleState R) : Prop where
  rpm : 0 ≤ c.rpm ∧ c.rpm < 65536
  throttlePct : 0 ≤ c.throttlePct ∧ c.throttlePct < 256
  speedKmh : 0 ≤ c.speedKmh ∧ c.speedKmh < 256
  engineTempC : -40 ≤ c.engineTempC ∧ c.engineTempC < 128
  brakePct : 0 ≤ c.brakePct ∧ c.brakePct < 256

/-- `struct.pack` accepts what the C types hold. -/
theorem SameVehicle.encodable {v : CanSentinel.VehicleState R} {c : VehicleState R}
    (hsame : SameVehicle v c) (h : c.InRange) : v.Encodable where
  rpm := hsame.rpm ▸ h.rpm
  throttlePct := hsame.throttlePct ▸ h.throttlePct
  speedKmh := hsame.speedKmh ▸ h.speedKmh
  engineTempC := by
    rw [hsame.engineTempC]
    exact ⟨h.engineTempC.1, h.engineTempC.2.trans (by norm_num)⟩
  brakePct := hsame.brakePct ▸ h.brakePct
  gear := by
    have hlt := c.gear.toNat_lt
    rw [hsame.gear]
    omega

/-! ## Conversions that do not wrap -/

theorem u8_ofInt {n : ℤ} (h : 0 ≤ n) : UInt8.ofInt n = UInt8.ofNat n.toNat := by
  obtain ⟨m, rfl⟩ := Int.eq_ofNat_of_zero_le h
  apply UInt8.toNat_inj.mp
  rw [UInt8.ofInt, UInt8.toNat_ofNat', UInt8.toNat_ofNat', Int.toNat_natCast]
  omega

theorem u8_toNat_ofInt {n : ℤ} (h : 0 ≤ n ∧ n < 256) : ((UInt8.ofInt n).toNat : ℤ) = n := by
  rw [u8_ofInt h.1, UInt8.toNat_ofNat']
  omega

theorem i8_toInt_ofInt {n : ℤ} (h : -128 ≤ n ∧ n < 128) : (Int8.ofInt n).toInt = n := by
  have hsize : Int8.size = 256 := rfl
  rw [Int8.toInt_ofInt]
  exact Int.bmod_eq_of_le (by omega) (by omega)

/-- The two bytes of a 16-bit integer are its big-endian encoding. -/
theorem highLow_ofInt {n : ℤ} (h : 0 ≤ n ∧ n < 65536) :
    highLow (UInt16.ofInt n) = ByteOrder.big.encode 2 n.toNat := by
  obtain ⟨h0, hlt⟩ := h
  lift n to ℕ using h0 with m
  have hm : (UInt16.ofInt (m : ℤ)).toNat = m := by
    rw [UInt16.ofInt, UInt16.toNat_ofNat']
    omega
  show [_, _] = [UInt8.ofNat (m / 256), UInt8.ofNat m]
  congr 1
  · apply UInt8.toNat_inj.mp
    rw [UInt16.toNat_toUInt8, UInt16.toNat_shiftRight, hm, UInt8.toNat_ofNat']
    simp [Nat.shiftRight_eq_div_pow]
  · congr 1
    apply UInt8.toNat_inj.mp
    rw [UInt16.toNat_toUInt8, UInt16.toNat_and, hm, UInt8.toNat_ofNat']
    have hand : m &&& (0xFF : UInt16).toNat = m % 2 ^ 8 := Nat.and_two_pow_sub_one_eq_mod m 8
    rw [hand, Nat.mod_mod]

/-- The tick conditions agree before the counter can overflow. -/
theorem int32_mod_eq_zero_iff {tick : ℕ} (h : tick < 2 ^ 31) {k : ℕ} (hk : k < 2 ^ 31) :
    Int32.ofNat tick % Int32.ofNat k = 0 ↔ tick % k = 0 := by
  have hcast : ∀ {n : ℕ}, n < 2 ^ 31 → (Int32.ofNat n).toInt = n := by
    intro n hn
    exact Int32.toInt_ofNat_of_lt hn
  rw [← Int32.toInt_inj, Int32.toInt_mod, hcast h, hcast hk]
  show ((tick : ℤ).tmod k) = 0 ↔ _
  rw [Int.tmod_eq_emod_of_nonneg (Int.natCast_nonneg tick)]
  omega

/-! ## Frame by frame -/

/-- What a crafted frame puts on the wire. -/
theorem craft_wire (canId : UInt32) (dlc : UInt8) {k : ℕ} (payload : ByteArray k)
    (h : dlc.toNat = k) (hk : k ≤ 8) :
    (craft canId dlc payload h).wire = (((canId &&& canSffMask).toNat : ℤ), (k : ℤ), payload.1) := by
  subst h
  have hdlc : (craft canId dlc payload rfl).canDlc.toNat = dlc.toNat := by
    rw [craft, canCraftFrame_canDlc, min_eq_left hk]
  have hdata : (craft canId dlc payload rfl).data.1.take (min dlc.toNat 8) =
      payload.1.take (min dlc.toNat 8) := canCraftFrame_data canId dlc false false payload.1 _
  rw [min_eq_left hk, List.take_of_length_le payload.2.le] at hdata
  rw [CanFrame.wire, hdlc, hdata]
  rfl

/-- A crafted frame and a Python frame with the same id, DLC and bytes. -/
theorem wire_eq {kind : EcuMessage} {canId : UInt32} {dlc : UInt8} {k : ℕ} {payload : ByteArray k}
    {v : CanSentinel.VehicleState R} (now : R) (h : dlc.toNat = k)
    (hid : ((canId &&& canSffMask).toNat : ℤ) = kind.canId) (hdlc : k = kind.dlc)
    (hdata : payload.1 = packedBytes .big kind.fmt (kind.args v)) :
    (craft canId dlc payload h).wire = (kind.sent v now).wire := by
  have hpy : (kind.sent v now).dlc = kind.dlc := EcuMessage.frame_dlc kind now _
  rw [craft_wire _ _ _ _ (hdlc ▸ kind.dlc_le_eight), hid, hdata, hdlc, CANFrame.wire, hpy]
  rfl

/-- A byte that C and Python choose by equivalent tests. -/
theorem chosen_byte {p q : Prop} [Decidable p] [Decidable q] (h : p ↔ q) (a : ℕ) :
    (if p then UInt8.ofNat a else 0) = UInt8.ofNat (if q then (a : ℤ) else 0).toNat := by
  rw [if_congr h rfl rfl]
  split <;> rfl

/-- A flag as C tests it and as Python tests it. -/
theorem flag_ne_zero_iff {flag : UInt8} {n : ℤ} (hn : n = flag.toNat) : flag ≠ 0 ↔ n ≠ 0 := by
  rw [hn, not_iff_not, ← UInt8.toNat_inj]
  exact Nat.cast_eq_zero.symm

section Frames

variable {v : CanSentinel.VehicleState R} {c : VehicleState R} (hsame : SameVehicle v c)

include hsame

theorem rpmPayload_eq (h : c.InRange) :
    (rpmPayload c).1 = packedBytes .big [.H, .B, .B] (rpmData v) := by
  have henc := hsame.encodable h
  show highLow (castU16 c.rpm) ++ [castU8 c.throttlePct, 0x01] = _
  rw [← hsame.rpm, ← hsame.throttlePct, castU16, castU8, highLow_ofInt henc.rpm_mem,
    u8_ofInt henc.throttle_mem.1]
  rfl

theorem speedPayload_eq (h : c.InRange) :
    (speedPayload c).1 = packedBytes .big [.H, .B, .B] (speedData v) := by
  have henc := hsame.encodable h
  show highLow (castU16 (c.speedKmh * 100.0)) ++ [0x00, 0x4A] = _
  rw [← hsame.speedKmh, castU16, highLow_ofInt henc.speedRaw_mem]
  rfl

theorem tempPayload_eq (h : c.InRange) :
    (tempPayload c).1 = packedBytes .big [.B, .B, .B] (tempData v) := by
  have henc := hsame.encodable h
  have hlow : -40 ≤ pyInt c.engineTempC := le_pyInt (by exact_mod_cast h.engineTempC.1)
  have hhigh : pyInt c.engineTempC < 128 :=
    pyInt_lt (by decide) (by exact_mod_cast h.engineTempC.2)
  show [UInt8.ofInt ((castI8 c.engineTempC).toInt + 40), 0x42, 0x00] = _
  rw [castI8, i8_toInt_ofInt (by omega), ← hsame.engineTempC, u8_ofInt henc.tempRaw_mem.1]
  rfl

theorem transPayload_eq (h : c.InRange) :
    (transPayload c).1 = packedBytes .big [.B, .H, .B, .B] (transData v) := by
  have henc := hsame.encodable h
  have hgear : c.gear = UInt8.ofNat v.gear.toNat := by
    rw [hsame.gear, Int.toNat_natCast, UInt8.ofNat_toNat]
  have hclutch : (if 0 < c.gear then (0x01 : UInt8) else 0x00) =
      UInt8.ofNat (if 0 < v.gear then (1 : ℤ) else 0).toNat := by
    have hiff : 0 < c.gear ↔ 0 < v.gear := by
      rw [hsame.gear, UInt8.lt_iff_toNat_lt]
      exact Nat.cast_pos.symm
    exact chosen_byte hiff 1
  show [c.gear] ++ highLow (castU16 (c.throttlePct * 3.5)) ++
    [if 0 < c.gear then 0x01 else 0x00, 0x00] = _
  rw [← hsame.throttlePct, castU16, highLow_ofInt henc.torque_mem, hclutch, hgear]
  rfl

theorem brakePayload_eq (h : c.InRange) :
    (brakePayload c).1 = packedBytes .big [.B, .B, .B, .B, .B, .B] (brakeData v) := by
  have henc := hsame.encodable h
  have hb : ((castU8 v.brakePct).toNat : ℤ) = pyInt v.brakePct := u8_toNat_ofInt henc.brake_mem
  have hs : ((castU8 v.speedKmh).toNat : ℤ) = pyInt v.speedKmh := u8_toNat_ofInt henc.speed_mem
  have habs : (if 70 < castU8 v.brakePct ∧ 40 < castU8 v.speedKmh then (0x01 : UInt8) else 0x00) =
      UInt8.ofNat (if 70 < pyInt v.brakePct ∧ 40 < pyInt v.speedKmh then (1 : ℤ) else 0).toNat := by
    have hiff : 70 < castU8 v.brakePct ∧ 40 < castU8 v.speedKmh ↔
        70 < pyInt v.brakePct ∧ 40 < pyInt v.speedKmh := by
      rw [UInt8.lt_iff_toNat_lt, UInt8.lt_iff_toNat_lt, ← hb, ← hs]
      show 70 < _ ∧ 40 < _ ↔ _
      omega
    exact chosen_byte hiff 1
  -- `speed_base > 1 ? speed_base - 1 : 0` against `max(0, speed_base - 1)`
  have hwheel : (if 1 < castU8 v.speedKmh then castU8 v.speedKmh - 1 else 0) =
      UInt8.ofNat (max 0 (pyInt v.speedKmh - 1)).toNat := by
    have hlt := (castU8 v.speedKmh).toNat_lt
    apply UInt8.toNat_inj.mp
    rw [UInt8.toNat_ofNat', ← hs]
    by_cases hfast : 1 < castU8 v.speedKmh
    · rw [if_pos hfast, UInt8.toNat_sub_of_le _ _ (UInt8.le_of_lt hfast)]
      rw [UInt8.lt_iff_toNat_lt] at hfast
      change 1 < _ at hfast
      show _ - 1 = _
      omega
    · rw [if_neg hfast]
      rw [UInt8.lt_iff_toNat_lt] at hfast
      change ¬ 1 < _ at hfast
      show 0 = _
      omega
  show [castU8 c.brakePct, if 70 < castU8 c.brakePct ∧ 40 < castU8 c.speedKmh then 0x01 else 0x00,
    castU8 c.speedKmh, castU8 c.speedKmh,
    if 1 < castU8 c.speedKmh then castU8 c.speedKmh - 1 else 0,
    if 1 < castU8 c.speedKmh then castU8 c.speedKmh - 1 else 0] = _
  rw [← hsame.brakePct, ← hsame.speedKmh, habs, hwheel, castU8, castU8,
    u8_ofInt henc.brake_mem.1, u8_ofInt henc.speed_mem.1]
  rfl

omit [PyFloat R] in
theorem doorPayload_eq : (doorPayload c).1 = packedBytes .big [.B, .B, .B, .B] (doorData v) := by
  show [if c.doorsLocked ≠ 0 then UInt8.ofNat 0xFF else 0x00, 0x00, 0x01, 0x00] = _
  rw [chosen_byte (flag_ne_zero_iff hsame.doorsLocked)]
  rfl

omit [PyFloat R] in
theorem lightPayload_eq : (lightPayload c).1 = packedBytes .big [.B, .B] (lightData v) := by
  show [if c.headlights ≠ 0 then UInt8.ofNat 0x01 else 0x00, 0x00] = _
  rw [chosen_byte (flag_ne_zero_iff hsame.headlights)]
  rfl

end Frames

/-! ## Iteration by iteration -/

/-- **The two simulators emit the same frames.** On every state in range and at every
tick below `2^31`, an iteration of each C thread hands to `transmit_frame` what an
iteration of the Python loop broadcasts. -/
theorem native_frames_eq {v : CanSentinel.VehicleState R} {c : VehicleState R}
    (hsame : SameVehicle v c) (h : c.InRange) (now : R) {tick : ℕ} (htick : tick < 2 ^ 31) :
    (engineEcuThread c (.ofNat tick)).map CanFrame.wire =
        (iteration v now (engineEcuLoop tick)).1.map CANFrame.wire ∧
      (transmissionEcuThread c).map CanFrame.wire =
        (iteration v now transmissionEcuLoop).1.map CANFrame.wire ∧
      (brakeEcuThread c).map CanFrame.wire = (iteration v now brakeEcuLoop).1.map CANFrame.wire ∧
      (bodyEcuThread c (.ofNat tick)).map CanFrame.wire =
        (iteration v now (bodyEcuLoop tick)).1.map CANFrame.wire := by
  have henc := hsame.encodable h
  have heven : Int32.ofNat tick % 2 = 0 ↔ tick % 2 = 0 :=
    int32_mod_eq_zero_iff htick (k := 2) (by decide)
  have hfive : Int32.ofNat tick % 5 = 0 ↔ tick % 5 = 0 :=
    int32_mod_eq_zero_iff htick (k := 5) (by decide)
  have hrpm : (craft canIdEngineRpm 4 (rpmPayload c) rfl).wire =
      (EcuMessage.engineRpm.sent v now).wire :=
    wire_eq now rfl (by decide) rfl (rpmPayload_eq hsame h)
  have hspeed : (craft canIdVehicleSpeed 4 (speedPayload c) rfl).wire =
      (EcuMessage.vehicleSpeed.sent v now).wire :=
    wire_eq now rfl (by decide) rfl (speedPayload_eq hsame h)
  have htemp : (craft canIdEngineTemp 3 (tempPayload c) rfl).wire =
      (EcuMessage.engineTemp.sent v now).wire :=
    wire_eq now rfl (by decide) rfl (tempPayload_eq hsame h)
  have htrans : (craft canIdTransmission 5 (transPayload c) rfl).wire =
      (EcuMessage.transmission.sent v now).wire :=
    wire_eq now rfl (by decide) rfl (transPayload_eq hsame h)
  have hbrake : (craft canIdBrakeOverride 6 (brakePayload c) rfl).wire =
      (EcuMessage.brake.sent v now).wire :=
    wire_eq now rfl (by decide) rfl (brakePayload_eq hsame h)
  have hdoors : (craft canIdBodyDoors 4 (doorPayload c) rfl).wire =
      (EcuMessage.bodyDoors.sent v now).wire :=
    wire_eq now rfl (by decide) rfl (doorPayload_eq hsame)
  have hclimate : (craft canIdBodyClimate 4 climatePayload rfl).wire =
      (EcuMessage.bodyClimate.sent v now).wire := wire_eq now rfl (by decide) rfl rfl
  have hlights : (craft canIdLighting 2 (lightPayload c) rfl).wire =
      (EcuMessage.lighting.sent v now).wire :=
    wire_eq now rfl (by decide) rfl (lightPayload_eq hsame)
  simp only [iteration_of_encodable henc]
  refine ⟨?_, ?_, ?_, ?_⟩
  · unfold engineEcuThread engineEcuLoop
    simp only [heven, hfive, List.map_append, apply_ite (List.map _), List.map_cons, List.map_nil,
      hrpm, hspeed, htemp]
  · exact congrArg (fun w => [w]) htrans
  · exact congrArg (fun w => [w]) hbrake
  · unfold bodyEcuThread bodyEcuLoop
    simp only [heven, List.map_append, apply_ite (List.map _), List.map_cons, List.map_nil,
      hdoors, hclimate, hlights]

/-- `cityCar`, in C. -/
def nativeCityCar : VehicleState ℚ where
  speedKmh := 47.85
  rpm := 2612.5
  engineTempC := 88.3
  throttlePct := 33.7
  brakePct := 0
  gear := 3
  doorsLocked := 1
  headlights := 0

theorem native_frames_eq_cityCar :
    (engineEcuThread nativeCityCar (.ofNat 10)).map CanFrame.wire =
        (iteration cityCar 0 (engineEcuLoop 10)).1.map CANFrame.wire ∧
      (transmissionEcuThread nativeCityCar).map CanFrame.wire =
        (iteration cityCar 0 transmissionEcuLoop).1.map CANFrame.wire ∧
      (brakeEcuThread nativeCityCar).map CanFrame.wire =
        (iteration cityCar 0 brakeEcuLoop).1.map CANFrame.wire ∧
      (bodyEcuThread nativeCityCar (.ofNat 10)).map CanFrame.wire =
        (iteration cityCar 0 (bodyEcuLoop 10)).1.map CANFrame.wire :=
  native_frames_eq ⟨rfl, rfl, rfl, rfl, rfl, rfl, rfl, rfl⟩
    (by constructor <;> norm_num [nativeCityCar]) 0 (by norm_num)

end C

end CanSentinel
