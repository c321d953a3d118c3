import CanSentinel.Bus.Frame
import CanSentinel.Sim.Vehicle

/-!
# The ECU loops (`VehicleECUSimulator._*_ecu_loop`)

Four threads transmit the state of the vehicle in eight kinds of messages. An
iteration reads the state under the lock, packs its messages one after the other
and broadcasts each as soon as it is packed, so that an argument out of range
ends the thread after the messages before it have gone out.

- `rpmData`, …, `lightData`: the arguments of the eight `struct.pack` calls.
- `EcuMessage`: the kinds; `EcuMessage.attempt` packs and builds the frame.
- `engineEcuLoop`, …, `bodyEcuLoop`: the messages of an iteration, by its tick.
- `broadcastAll`: the frames an iteration broadcasts, and how it ends.
- `VehicleState.Encodable`: the states for which no `struct.pack` raises
  (`EcuMessage.attempt_of_encodable`).
-/

namespace CanSentinel

variable {R : Type} [PyFloat R]

/-! ## Payloads -/

section Payloads

variable (self : VehicleState R)

/-- `struct.pack(">HBB", …)`. -/
def rpmData : StructArgs [.H, .B, .B] := (pyInt self.rpm, pyInt self.throttlePct, 0x01, ())

/-- `struct.pack(">HBB", …)`. -/
def speedData : StructArgs [.H, .B, .B] :=
  let speedRaw := pyInt (self.speedKmh * 100.0)
  (speedRaw, 0x00, 0x4A, ())

/-- `struct.pack("BBB", …)`. -/
def tempData : StructArgs [.B, .B, .B] := (pyInt self.engineTempC + 40, 0x42, 0x00, ())

/-- `struct.pack(">BHBB", …)`. -/
def transData : StructArgs [.B, .H, .B, .B] :=
  let torqueNm := pyInt (self.throttlePct * 3.5)
  (self.gear, torqueNm, if 0 < self.gear then 1 else 0, 0x00, ())

/-- `struct.pack("BBBBBB", …)`. -/
def brakeData : StructArgs [.B, .B, .B, .B, .B, .B] :=
  let brakeVal := pyInt self.brakePct
  let speedBase := pyInt self.speedKmh
  let absActive := if 70 < brakeVal ∧ 40 < speedBase then 1 else 0
  let wheelRl := max 0 (speedBase - 1)
  (brakeVal, absActive, speedBase, speedBase, wheelRl, wheelRl, ())

/-- `struct.pack("BBBB", …)`. -/
def doorData : StructArgs [.B, .B, .B, .B] :=
  (if self.doorsLocked ≠ 0 then 0xFF else 0x00, 0x00, 0x01, 0x00, ())

/-- `struct.pack("BBBB", …)`. -/
def climateData : StructArgs [.B, .B, .B, .B] := (22, 21, 0x03, 0x01, ())

/-- `struct.pack("BB", …)`. -/
def lightData : StructArgs [.B, .B] := (if self.headlights ≠ 0 then 0x01 else 0x00, 0x00, ())

end Payloads

/-! ## Messages -/

/-- The kinds of messages. -/
inductive EcuMessage where
  | engineRpm
  | vehicleSpeed
  | engineTemp
  | transmission
  | brake
  | bodyDoors
  | bodyClimate
  | lighting
deriving DecidableEq

namespace EcuMessage

def canId : EcuMessage → ℤ
  | engineRpm => canIdEngineRpm
  | vehicleSpeed => canIdVehicleSpeed
  | engineTemp => canIdEngineTemp
  | transmission => canIdTransmission
  | brake => canIdBrakeOverride
  | bodyDoors => canIdBodyDoors
  | bodyClimate => canIdBodyClimate
  | lighting => canIdLighting

/-- The `dlc` each frame is constructed with. -/
def dlc : EcuMessage → ℕ
  | engineRpm => 4
  | vehicleSpeed => 4
  | engineTemp => 3
  | transmission => 5
  | brake => 6
  | bodyDoors => 4
  | bodyClimate => 4
  | lighting => 2

/-- The pack formats. -/
@[reducible] def fmt : EcuMessage → List StructCode
  | engineRpm => [.H, .B, .B]
  | vehicleSpeed => [.H, .B, .B]
  | engineTemp => [.B, .B, .B]
  | transmission => [.B, .H, .B, .B]
  | brake => [.B, .B, .B, .B, .B, .B]
  | bodyDoors => [.B, .B, .B, .B]
  | bodyClimate => [.B, .B, .B, .B]
  | lighting => [.B, .B]

/-- The arguments packed. -/
def args (self : VehicleState R) : (kind : EcuMessage) → StructArgs kind.fmt
  | engineRpm => rpmData self
  | vehicleSpeed => speedData self
  | engineTemp => tempData self
  | transmission => transData self
  | brake => brakeData self
  | bodyDoors => doorData self
  | bodyClimate => climateData
  | lighting => lightData self

/-- The frame of a kind with some payload, stamped `now`. -/
def frame (kind : EcuMessage) (now : R) (data : Bytes) : CANFrame R :=
  CANFrame.new now kind.canId data (some kind.dlc) false false false (some now)

/-- Packing arguments and building the frame. Formats of single bytes have no byte
order; `.big` stands for both. -/
def packFrame (kind : EcuMessage) (args : StructArgs kind.fmt) (now : R) :
    Except PyError (CANFrame R) := do
  let data ← structPack .big kind.fmt args
  return kind.frame now data

/-- Sending a message about a state. -/
def attempt (kind : EcuMessage) (self : VehicleState R) (now : R) : Except PyError (CANFrame R) :=
  kind.packFrame (kind.args self) now

/-- The kinds have different ids. -/
theorem canId_injective : Function.Injective canId := by
  intro a b h
  cases a <;> cases b <;> first | rfl | exact absurd h (by decide)

/-- The formats have the size of the DLC. -/
@[simp] theorem calcsize_fmt (kind : EcuMessage) : calcsize kind.fmt = kind.dlc := by
  cases kind <;> rfl

theorem dlc_le_eight (kind : EcuMessage) : kind.dlc ≤ 8 := by
  cases kind <;> decide

omit [PyFloat R] in
@[simp] theorem frame_dlc (kind : EcuMessage) (now : R) (data : Bytes) :
    (kind.frame now data).dlc = kind.dlc := by
  cases kind <;> rfl

omit [PyFloat R] in
/-- Packing arguments that fit. -/
theorem packFrame_of_fit {kind : EcuMessage} {args : StructArgs kind.fmt}
    (h : ArgsFit kind.fmt args) (now : R) :
    kind.packFrame args now = .ok (kind.frame now (packedBytes .big kind.fmt args)) := by
  rw [packFrame, structPack_of_fit .big h]
  rfl

end EcuMessage

/-! ## Iterations -/

/-- The messages of an iteration of `_engine_ecu_loop`. -/
def engineEcuLoop (tick : ℕ) : List EcuMessage :=
  [.engineRpm] ++ (if tick % 2 = 0 then [.vehicleSpeed] else []) ++
    (if tick % 5 = 0 then [.engineTemp] else [])

/-- `_transmission_ecu_loop` counts no ticks. -/
def transmissionEcuLoop : List EcuMessage := [.transmission]

/-- `_brake_ecu_loop` counts no ticks. -/
def brakeEcuLoop : List EcuMessage := [.brake]

/-- The messages of an iteration of `_body_ecu_loop`. -/
def bodyEcuLoop (tick : ℕ) : List EcuMessage :=
  [.bodyDoors] ++ (if tick % 2 = 0 then [.bodyClimate] else []) ++ [.lighting]

/-- Broadcasting until packing raises: the frames that went out, and the end of
the iteration. -/
def broadcastAll : List (Except PyError (CANFrame R)) → List (CANFrame R) × Except PyError Unit
  | [] => ([], .ok ())
  | .error e :: _ => ([], .error e)
  | .ok frame :: attempts =>
    let (sent, out) := broadcastAll attempts
    (frame :: sent, out)

/-- An iteration that sends the messages `kinds` about a state. -/
def iteration (self : VehicleState R) (now : R) (kinds : List EcuMessage) :
    List (CANFrame R) × Except PyError Unit :=
  broadcastAll (kinds.map fun kind => kind.attempt self now)

omit [PyFloat R] in
/-- If everything can be packed, all frames go out. -/
theorem broadcastAll_map_ok {ι : Type} (frameOf : ι → CANFrame R) (xs : List ι) :
    broadcastAll (xs.map fun x => .ok (frameOf x)) = (xs.map frameOf, .ok ()) := by
  induction xs with
  | nil => rfl
  | cons x xs ih =>
    rw [List.map_cons, broadcastAll, ih]
    rfl

/-! ## When packing succeeds -/

/-- The states whose fields fit the payload formats. -/
structure VehicleState.Encodable (v : VehicleState R) : Prop where
  rpm : 0 ≤ v.rpm ∧ v.rpm < 65536
  throttlePct : 0 ≤ v.throttlePct ∧ v.throttlePct < 256
  speedKmh : 0 ≤ v.speedKmh ∧ v.speedKmh < 256
  engineTempC : -40 ≤ v.engineTempC ∧ v.engineTempC < 216
  brakePct : 0 ≤ v.brakePct ∧ v.brakePct < 256
  gear : 0 ≤ v.gear ∧ v.gear < 256

/-- A number in a half-open range is truncated into it. -/
theorem pyInt_mem {x : R} {n : ℤ} (hn : 0 < n) (h0 : 0 ≤ x) (hlt : x < n) :
    0 ≤ pyInt x ∧ pyInt x < n :=
  ⟨le_pyInt (by exact_mod_cast h0), pyInt_lt hn hlt⟩

/-- A choice between two flag bytes fits a byte. -/
theorem ite_fits (p : Prop) [Decidable p] {a b : ℤ} (ha : StructCode.B.Fits a)
    (hb : StructCode.B.Fits b) : StructCode.B.Fits (if p then a else b) :=
  iteInduction (fun _ => ha) fun _ => hb

namespace VehicleState

variable {self : VehicleState R} (h : self.Encodable)

include h

theorem Encodable.rpm_mem : 0 ≤ pyInt self.rpm ∧ pyInt self.rpm < 65536 :=
  pyInt_mem (by decide) h.rpm.1 (by exact_mod_cast h.rpm.2)

theorem Encodable.throttle_mem : 0 ≤ pyInt self.throttlePct ∧ pyInt self.throttlePct < 256 :=
  pyInt_mem (by decide) h.throttlePct.1 (by exact_mod_cast h.throttlePct.2)

theorem Encodable.brake_mem : 0 ≤ pyInt self.brakePct ∧ pyInt self.brakePct < 256 :=
  pyInt_mem (by decide) h.brakePct.1 (by exact_mod_cast h.brakePct.2)

theorem Encodable.speed_mem : 0 ≤ pyInt self.speedKmh ∧ pyInt self.speedKmh < 256 :=
  pyInt_mem (by decide) h.speedKmh.1 (by exact_mod_cast h.speedKmh.2)

theorem Encodable.speedRaw_mem :
    0 ≤ pyInt (self.speedKmh * 100.0) ∧ pyInt (self.speedKmh * 100.0) < 65536 := by
  obtain ⟨h0, hlt⟩ := h.speedKmh
  refine pyInt_mem (by decide) (by positivity) ?_
  push_cast
  linarith

theorem Encodable.tempRaw_mem :
    0 ≤ pyInt self.engineTempC + 40 ∧ pyInt self.engineTempC + 40 < 256 := by
  have hlow : -40 ≤ pyInt self.engineTempC := le_pyInt (by exact_mod_cast h.engineTempC.1)
  have hhigh : pyInt self.engineTempC < 216 :=
    pyInt_lt (by decide) (by exact_mod_cast h.engineTempC.2)
  omega

theorem Encodable.torque_mem :
    0 ≤ pyInt (self.throttlePct * 3.5) ∧ pyInt (self.throttlePct * 3.5) < 65536 := by
  obtain ⟨h0, hlt⟩ := h.throttlePct
  refine pyInt_mem (by decide) (by positivity) ?_
  norm_num
  linarith

/-- **The arguments of every `struct.pack` are in range.** -/
theorem Encodable.argsFit (kind : EcuMessage) : ArgsFit kind.fmt (kind.args self) := by
  cases kind with
  | engineRpm => exact ⟨h.rpm_mem, h.throttle_mem, by decide, trivial⟩
  | vehicleSpeed => exact ⟨h.speedRaw_mem, by decide, by decide, trivial⟩
  | engineTemp => exact ⟨h.tempRaw_mem, by decide, by decide, trivial⟩
  | transmission =>
    exact ⟨h.gear, h.torque_mem, ite_fits _ (by decide) (by decide), by decide, trivial⟩
  | brake =>
    have hspeed := h.speed_mem
    have hwheel : 0 ≤ max 0 (pyInt self.speedKmh - 1) ∧ max 0 (pyInt self.speedKmh - 1) < 256 := by
      omega
    exact ⟨h.brake_mem, ite_fits _ (by decide) (by decide), hspeed, hspeed, hwheel, hwheel,
      trivial⟩
  | bodyDoors =>
    exact ⟨ite_fits _ (by decide) (by decide), by decide, by decide, by decide, trivial⟩
  | bodyClimate => exact ⟨by decide, by decide, by decide, by decide, trivial⟩
  | lighting => exact ⟨ite_fits _ (by decide) (by decide), by decide, trivial⟩

end VehicleState

/-- A car at 47.85 km/h. -/
def cityCar : VehicleState ℚ where
  speedKmh := 47.85
  rpm := 2612.5
  engineTempC := 88.3
  throttlePct := 33.7
  brakePct := 0
  gear := 3
  doorsLocked := 1
  headlights := 0

theorem cityCar_encodable : cityCar.Encodable := by
  constructor <;> norm_num [cityCar]

/-- The frame a message about an encodable state goes out as. -/
def EcuMessage.sent (kind : EcuMessage) (self : VehicleState R) (now : R) : CANFrame R :=
  kind.frame now (packedBytes .big kind.fmt (kind.args self))

theorem EcuMessage.attempt_of_encodable (kind : EcuMessage) {self : VehicleState R}
    (h : self.Encodable) (now : R) : kind.attempt self now = .ok (kind.sent self now) :=
  packFrame_of_fit (h.argsFit kind) now

/-- **No iteration on an encodable state raises**, and all its messages go out. -/
theorem iteration_of_encodable {self : VehicleState R} (h : self.Encodable) (now : R)
    (kinds : List EcuMessage) :
    iteration self now kinds = (kinds.map fun kind => kind.sent self now, .ok ()) := by
  unfold iteration
  simp only [EcuMessage.attempt_of_encodable _ h]
  exact broadcastAll_map_ok _ kinds

/-- The data of a frame that goes out has the length its DLC says. -/
theorem EcuMessage.length_sent (kind : EcuMessage) (self : VehicleState R) (now : R) :
    (kind.sent self now).data.length = kind.dlc := by
  show (packedBytes .big kind.fmt (kind.args self)).length = _
  rw [length_packedBytes, calcsize_fmt]

end CanSentinel
