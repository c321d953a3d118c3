import CanSentinel.Lib.Text
import CanSentinel.Bus.Frame

/-!
# Signal decoding (`CANTelemetryParser.decode_signals`)

`decodeSignals` has one layout per ECU id. Each branch unpacks a slice of the
payload once the payload is long enough for it. The transmission branch unpacks
a five-byte format from a slice of four bytes, so it raises whenever it is taken
(`decodeSignals_transmission`); no other branch ever raises
(`decodeSignals_isOk_iff`, and `CANFrame.decodes_iff` about frames).
-/

namespace CanSentinel

variable {R : Type} [PyFloat R]

/-- The values a decoded signal takes. -/
inductive SignalValue (R : Type) where
  | int (n : ℤ)
  | float (x : R)
  | str (s : String)
  | bool (b : Bool)
deriving DecidableEq

/-- Decoded signals by name, in insertion order. -/
abbrev Signals (R : Type) := List (String × SignalValue R)

/-- `str(v)`. -/
def SignalValue.text : SignalValue R → String
  | .int n => toString n
  | .float x => strFloat2 x
  | .str s => s
  | .bool b => if b then "True" else "False"

/-- `CANTelemetryParser.decode_signals`. Single-byte formats have no byte
order; `.big` stands for both. -/
def decodeSignals (canId : ℤ) (data : Bytes) : Except PyError (Signals R) :=
  let dlc := data.length
  if canId = canIdEngineRpm ∧ 4 ≤ dlc then do
    let (rpm, throttle, status, ()) ← structUnpack .big [.H, .B, .B] (data.take 4)
    return [("rpm", .int rpm), ("throttle_pct", .int throttle),
      ("engine_status", .str (if status = 1 then "RUNNING" else "OFF"))]
  else if canId = canIdVehicleSpeed ∧ 2 ≤ dlc then do
    let (speedRaw, ()) ← structUnpack .big [.H] (data.take 2)
    return [("speed_kmh", .float (pyRound ((speedRaw : R) / 100.0) 2))]
  else if canId = canIdEngineTemp ∧ 3 ≤ dlc then do
    let (tempRaw, oilPress, _, ()) ← structUnpack .big [.B, .B, .B] (data.take 3)
    return [("coolant_temp_c", .int ((tempRaw : ℤ) - 40)),
      ("oil_pressure_bar", .float (pyRound ((oilPress : R) / 10.0) 1))]
  else if canId = canIdTransmission ∧ 4 ≤ dlc then do
    -- five bytes of format over a slice of four
    let (gear, torqueNm, clutch, _, ()) ← structUnpack .big [.B, .H, .B, .B] (data.take 4)
    return [("gear", .str (if gear = 0 then "P/N" else "G" ++ toString gear)),
      ("torque_nm", .int torqueNm),
      ("clutch", .str (if clutch = 1 then "ENGAGED" else "DISENGAGED"))]
  else if canId = canIdBrakeOverride ∧ 6 ≤ dlc then do
    let (brakePct, absAct, fl, fr, rl, rr, ()) ←
      structUnpack .big [.B, .B, .B, .B, .B, .B] (data.take 6)
    return [("brake_pct", .int brakePct), ("abs_active", .bool (absAct ≠ 0)),
      ("wheel_speeds", .str ("[" ++ toString fl ++ "," ++ toString fr ++ "," ++
        toString rl ++ "," ++ toString rr ++ "]"))]
  else if canId = canIdBodyDoors ∧ 3 ≤ dlc then do
    let (doors, _, seatbelt, ()) ← structUnpack .big [.B, .B, .B] (data.take 3)
    return [("doors_locked", .bool (doors = 0xFF)), ("driver_seatbelt", .bool (seatbelt = 1))]
  else if canId = canIdBodyClimate ∧ 4 ≤ dlc then do
    let (target, ambient, fan, ac, ()) ← structUnpack .big [.B, .B, .B, .B] (data.take 4)
    return [("target_temp_c", .int target), ("ambient_temp_c", .int ambient),
      ("fan_speed", .int fan), ("ac_on", .bool (ac = 1))]
  else if canId = canIdLighting ∧ 2 ≤ dlc then do
    let (lights, turn, ()) ← structUnpack .big [.B, .B] (data.take 2)
    return [("headlights", .str (if lights = 1 then "ON" else "OFF")),
      ("turn_signal", .str (if turn = 0 then "NONE" else if turn = 1 then "LEFT" else "RIGHT"))]
  else return []

/-- A layout is not taken for another id. -/
theorem not_layout {a b : ℤ} {p : Prop} (h : a ≠ b) : ¬ (a = b ∧ p) := fun hp => h hp.1

/-- A layout of `decodeSignals` whose format fits its slice returns, if the layouts after it do. -/
theorem isOk_layout {c : Prop} [Decidable c] {fmt : List StructCode} {data : Bytes} {n : ℕ}
    {β : Type} {k : StructVals fmt → Except PyError β} {rest : Except PyError β}
    (hlen : c → n ≤ data.length) (hfmt : calcsize fmt = n) (hk : ∀ v, (k v).isOk)
    (hrest : rest.isOk) :
    (if c then structUnpack .big fmt (data.take n) >>= k else rest).isOk := by
  by_cases hc : c
  · have hslice : (data.take n).length = calcsize fmt := by
      rw [List.length_take, hfmt, min_eq_left (hlen hc)]
    rw [if_pos hc, structUnpack_of_length .big hslice]
    exact hk _
  · rw [if_neg hc]
    exact hrest

/-- The transmission layout raises on every payload it is applied to. -/
theorem decodeSignals_transmission (data : Bytes) (h : 4 ≤ data.length) :
    (decodeSignals canIdTransmission data : Except PyError (Signals R)) =
      .error (.structError "unpack requires a buffer of 5 bytes") := by
  have hne : (data.take 4).length ≠ calcsize [.B, .H, .B, .B] := by
    rw [List.length_take, min_eq_left h]
    decide
  have hmsg : "unpack requires a buffer of " ++ toString (calcsize [.B, .H, .B, .B]) ++ " bytes" =
      "unpack requires a buffer of 5 bytes" := by decide
  rw [decodeSignals, if_neg (not_layout (by decide)), if_neg (not_layout (by decide)),
    if_neg (not_layout (by decide)), if_pos ⟨rfl, h⟩, structUnpack_of_length_ne .big hne, hmsg]
  rfl

/-- **When decoding raises**: on transmission frames of four bytes or more, and
on no other frame. -/
theorem decodeSignals_isOk_iff (canId : ℤ) (data : Bytes) :
    (decodeSignals canId data : Except PyError (Signals R)).isOk ↔
      ¬ (canId = canIdTransmission ∧ 4 ≤ data.length) := by
  constructor
  · rintro hok ⟨rfl, hlen⟩
    rw [decodeSignals_transmission data hlen] at hok
    cases hok
  · intro htrans
    unfold decodeSignals
    refine isOk_layout And.right rfl (fun _ => rfl) ?_
    refine isOk_layout And.right rfl (fun _ => rfl) ?_
    refine isOk_layout And.right rfl (fun _ => rfl) ?_
    rw [if_neg htrans]
    refine isOk_layout And.right rfl (fun _ => rfl) ?_
    refine isOk_layout And.right rfl (fun _ => rfl) ?_
    refine isOk_layout And.right rfl (fun _ => rfl) ?_
    exact isOk_layout And.right rfl (fun _ => rfl) rfl

/-- The signals of a frame can be decoded: `parse_frame` returns. -/
def CANFrame.Decodes (frame : CANFrame R) : Prop :=
  (decodeSignals frame.canId frame.payload : Except PyError (Signals R)).isOk

instance (frame : CANFrame R) : Decidable frame.Decodes :=
  inferInstanceAs (Decidable (_ = true))

theorem CANFrame.decodes_iff (frame : CANFrame R) :
    frame.Decodes ↔ ¬ (frame.canId = canIdTransmission ∧ 4 ≤ frame.payload.length) :=
  decodeSignals_isOk_iff _ _

end CanSentinel
