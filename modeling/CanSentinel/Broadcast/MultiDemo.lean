import CanSentinel.Parser.Signals
import CanSentinel.Sim.NativeEcu

/-!
# The broadcaster's demo (`c/can_broadcaster.c`)

`run_multi_demo` sends the frames of three ECUs from a ramp of engine speeds. Its engine
payload has the status before the last byte, where the decoder and the C simulator keep
the throttle, and its speed payload holds whole km/h in the high byte of a field that the
decoder reads in hundredths.

- `MultiDemo.turn`: an iteration of the loop, with the variables that outlive it.
- `decodeSignals_engine`, `decodeSignals_speed`: what the decoder makes of such payloads.
- `multi_demo_misread`: every step of the demo.
-/

namespace CanSentinel.C

/-- The variables of `run_multi_demo`. -/
structure MultiDemo where
  rpm : UInt16
  speed : UInt8
  temp : Int8
  doors : UInt8
  step : Int32

namespace MultiDemo

/-- The variables before the loop. -/
def start : MultiDemo := ⟨800, 0, 85, 0x00, 0⟩

theorem toNat_two : (2 : UInt8).toNat = 2 := rfl

theorem toNat_four : (4 : UInt8).toNat = 4 := rfl

/-- The frames of an engine speed, a vehicle speed, and the body ECU. -/
def engineFrame (rpm : UInt16) : CanFrame :=
  craft canIdEngineRpm 4 (k := 4) ⟨highLow rpm ++ [0x01, 0x00], rfl⟩ toNat_four

def speedFrame (speed : UInt8) : CanFrame :=
  craft canIdVehicleSpeed 2 (k := 2) ⟨[speed, 0x00], rfl⟩ toNat_two

def bodyFrame (temp : Int8) (doors : UInt8) : CanFrame :=
  craft canIdBodyDoors 4 (k := 4) ⟨[temp.toUInt8, doors, 0x12, 0x34], rfl⟩ toNat_four

/-- An iteration of the loop: the frames it sends and the variables after it. -/
def turn (s : MultiDemo) : List CanFrame × MultiDemo :=
  let rpm := 800 + UInt16.ofInt (s.step * 25 % 5500).toInt
  let speed := if s.step % 2 = 0 then UInt8.ofInt (((rpm.toNat : ℤ) - 800).tdiv 70) else s.speed
  ([engineFrame rpm] ++
      (if s.step % 2 = 0 then [speedFrame speed] else []) ++
      (if s.step % 5 = 0 then [bodyFrame s.temp s.doors] else []),
    { s with rpm := rpm, speed := speed, step := s.step + 1 })

/-- The variables after `n` iterations. -/
def after (n : ℕ) : MultiDemo := (fun s => s.turn.2)^[n] start

/-! ## The variables -/

theorem after_succ (n : ℕ) : after (n + 1) = (after n).turn.2 :=
  Function.iterate_succ_apply' _ _ _

theorem step_after (n : ℕ) : (after n).step = Int32.ofNat n := by
  induction n with
  | zero => rfl
  | succ n ih =>
    rw [after_succ, Int32.ofNat_add, ← ih]
    rfl

/-- The ramp, as long as `step * 25` is an `int`. -/
theorem rpm_turn {n : ℕ} (h : 25 * n < 2 ^ 31) :
    (after n).turn.2.rpm.toNat = 800 + 25 * n % 5500 := by
  have hmul : (Int32.ofNat n * 25).toInt = (25 * n : ℕ) := by
    have hofNat : Int32.ofNat n * 25 = Int32.ofNat (25 * n) := by
      rw [Nat.mul_comm, Int32.ofNat_mul]
      rfl
    rw [hofNat, Int32.toInt_ofNat_of_lt h]
  have hmod : (Int32.ofNat n * 25 % 5500).toInt = (25 * n % 5500 : ℕ) := by
    have hdivisor : (5500 : Int32).toInt = 5500 := rfl
    rw [Int32.toInt_mod, hmul, hdivisor, Int.tmod_eq_emod_of_nonneg (Int.natCast_nonneg _)]
    rfl
  have hramp : (UInt16.ofInt ((25 * n % 5500 : ℕ) : ℤ)).toNat = 25 * n % 5500 := by
    rw [UInt16.ofInt, UInt16.toNat_ofNat']
    omega
  have hidle : (800 : UInt16).toNat = 800 := rfl
  show (800 + UInt16.ofInt ((after n).step * 25 % 5500).toInt).toNat = _
  rw [step_after, hmod, UInt16.toNat_add, hramp, hidle]
  omega

/-- The vehicle speed of an even step. -/
theorem speed_turn {n : ℕ} (h : 25 * n < 2 ^ 31) (heven : n % 2 = 0) :
    (after n).turn.2.speed.toNat = 25 * n % 5500 / 70 := by
  have hstep : (after n).step % 2 = 0 := by
    rw [step_after]
    exact (int32_mod_eq_zero_iff (by omega) (k := 2) (by decide)).mpr heven
  have hspeed : (after n).turn.2.speed =
      UInt8.ofInt ((((after n).turn.2.rpm.toNat : ℤ) - 800).tdiv 70) := if_pos hstep
  have hdiv : (((800 + 25 * n % 5500 : ℕ) : ℤ) - 800).tdiv 70 = (25 * n % 5500 / 70 : ℕ) := by
    rw [Int.tdiv_eq_ediv_of_nonneg (by omega)]
    omega
  have hvalue := u8_toNat_ofInt (n := (25 * n % 5500 / 70 : ℕ)) ⟨by omega, by omega⟩
  rw [hspeed, rpm_turn h, hdiv]
  exact_mod_cast hvalue

/-! ## What the decoder makes of the payloads -/

variable {R : Type} [PyFloat R]

theorem decode_highLow (n : UInt16) : ByteOrder.big.decode (highLow n) = n.toNat := by
  have hencode : highLow n = ByteOrder.big.encode 2 n.toNat := by
    have hlt := n.toNat_lt
    have hofInt : UInt16.ofInt (n.toNat : ℤ) = n := by
      apply UInt16.toNat_inj.mp
      rw [UInt16.ofInt, UInt16.toNat_ofNat']
      omega
    have hbytes := highLow_ofInt (n := (n.toNat : ℤ)) ⟨by omega, by omega⟩
    rwa [hofInt, Int.toNat_natCast] at hbytes
  rw [hencode, ByteOrder.decode_encode_of_lt _ n.toNat_lt]

/-- Engine payloads: speed, throttle, status. -/
theorem decodeSignals_engine (rpm : UInt16) (throttle status : UInt8) :
    decodeSignals CanSentinel.canIdEngineRpm (highLow rpm ++ [throttle, status]) =
      (.ok [("rpm", .int rpm.toNat), ("throttle_pct", .int throttle.toNat),
        ("engine_status", .str (if status.toNat = 1 then "RUNNING" else "OFF"))] :
          Except PyError (Signals R)) := by
  have hunpack : structUnpack .big [.H, .B, .B] ((highLow rpm ++ [throttle, status]).take 4) =
      .ok (rpm.toNat, throttle.toNat, status.toNat, ()) := by
    rw [structUnpack_of_length _ rfl]
    show Except.ok (ByteOrder.big.decode (highLow rpm), ByteOrder.big.decode [throttle],
      ByteOrder.big.decode [status], ()) = _
    rw [decode_highLow, ByteOrder.decode_singleton, ByteOrder.decode_singleton]
  rw [decodeSignals, if_pos ⟨rfl, le_refl 4⟩, hunpack]
  rfl

/-- Speed payloads: hundredths of a km/h. -/
theorem decodeSignals_speed (high low : UInt8) :
    decodeSignals CanSentinel.canIdVehicleSpeed [high, low] =
      (.ok [("speed_kmh", .float (((256 * high.toNat + low.toNat : ℕ) : R) / 100.0))] :
        Except PyError (Signals R)) := by
  have hunpack : structUnpack .big [.H] (([high, low] : Bytes).take 2) =
      .ok (256 * high.toNat + low.toNat, ()) := by
    rw [structUnpack_of_length _ rfl]
    show Except.ok (low.toNat + 256 * (high.toNat + 256 * 0), ()) = _
    rw [Nat.mul_zero, Nat.add_zero, Nat.add_comm]
  have hround : pyRound (((256 * high.toNat + low.toNat : ℕ) : R) / 100.0) 2 =
      ((256 * high.toNat + low.toNat : ℕ) : R) / 100.0 := by
    have hpow : (100.0 : R) = 10 ^ 2 := by norm_num
    rw [hpow, ← Int.cast_natCast, pyRound_div_pow]
  rw [decodeSignals, if_neg (not_layout (by decide)), if_pos ⟨rfl, by simp⟩, hunpack]
  show Except.ok [("speed_kmh", SignalValue.float (pyRound (_ / 100.0) 2))] = _
  rw [hround]

/-! ## The demo, decoded -/

/-- The frames of a turn say what the variables hold: the engine runs at `rpm`, and the
vehicle at `speed` km/h. -/
structure DecodesAsMeant (R : Type) [PyFloat R] (turn : List CanFrame × MultiDemo) : Prop where
  engine : ∀ frame ∈ turn.1, frame.wire.1 = CanSentinel.canIdEngineRpm →
    ∃ signals : Signals R, decodeSignals frame.wire.1 frame.wire.2.2 = .ok signals ∧
      signals.lookup "rpm" = some (.int turn.2.rpm.toNat) ∧
      signals.lookup "engine_status" = some (.str "RUNNING")
  speed : ∀ frame ∈ turn.1, frame.wire.1 = CanSentinel.canIdVehicleSpeed →
    ∃ signals : Signals R, decodeSignals frame.wire.1 frame.wire.2.2 = .ok signals ∧
      signals.lookup "speed_kmh" = some (.float (turn.2.speed.toNat : R))

theorem wire_engineFrame (rpm : UInt16) : (engineFrame rpm).wire =
    (CanSentinel.canIdEngineRpm, 4, highLow rpm ++ [0x01, 0x00]) :=
  craft_wire canIdEngineRpm 4 _ rfl (by decide)

theorem wire_speedFrame (speed : UInt8) : (speedFrame speed).wire =
    (CanSentinel.canIdVehicleSpeed, 2, [speed, 0x00]) :=
  craft_wire canIdVehicleSpeed 2 _ rfl (by decide)

theorem engineFrame_mem (s : MultiDemo) : engineFrame s.turn.2.rpm ∈ s.turn.1 :=
  List.mem_append_left _ (List.mem_append_left _ (List.mem_singleton_self _))

theorem speedFrame_mem {s : MultiDemo} (heven : s.step % 2 = 0) :
    speedFrame s.turn.2.speed ∈ s.turn.1 := by
  refine List.mem_append_left _ (List.mem_append_right _ ?_)
  rw [if_pos heven]
  exact List.mem_singleton_self _

/-- The decoder takes the constant status for the throttle, and the last byte, which is
zero, for the status. -/
theorem decode_engineFrame (rpm : UInt16) :
    decodeSignals (engineFrame rpm).wire.1 (engineFrame rpm).wire.2.2 =
      (.ok [("rpm", .int rpm.toNat), ("throttle_pct", .int 1), ("engine_status", .str "OFF")] :
        Except PyError (Signals R)) := by
  rw [wire_engineFrame]
  exact decodeSignals_engine rpm 0x01 0x00

/-- It takes `256 * speed` for hundredths. -/
theorem decode_speedFrame (speed : UInt8) :
    decodeSignals (speedFrame speed).wire.1 (speedFrame speed).wire.2.2 =
      (.ok [("speed_kmh", .float (2.56 * (speed.toNat : R)))] : Except PyError (Signals R)) := by
  have hscale : ((256 * speed.toNat + 0 : ℕ) : R) / 100.0 = 2.56 * (speed.toNat : R) := by
    push_cast
    norm_num
    ring
  rw [wire_speedFrame, ← hscale]
  exact decodeSignals_speed speed 0x00

/-- **The demo is misread at every step.** The engine speed arrives, the running engine is
reported as off, and the vehicle speed arrives multiplied by 2.56. -/
theorem multi_demo_misread {n : ℕ} (h : 25 * n < 2 ^ 31) :
    let turn := (after n).turn
    ¬ DecodesAsMeant R turn ∧
      (engineFrame turn.2.rpm ∈ turn.1 ∧
        decodeSignals (engineFrame turn.2.rpm).wire.1 (engineFrame turn.2.rpm).wire.2.2 =
          (.ok [("rpm", .int (800 + 25 * n % 5500 : ℕ)), ("throttle_pct", .int 1),
            ("engine_status", .str "OFF")] : Except PyError (Signals R))) ∧
      (n % 2 = 0 → speedFrame turn.2.speed ∈ turn.1 ∧
        turn.2.speed.toNat = 25 * n % 5500 / 70 ∧
        decodeSignals (speedFrame turn.2.speed).wire.1 (speedFrame turn.2.speed).wire.2.2 =
          (.ok [("speed_kmh", .float (2.56 * (turn.2.speed.toNat : R)))] :
            Except PyError (Signals R))) := by
  dsimp only
  refine ⟨?_, ⟨engineFrame_mem _, ?_⟩, ?_⟩
  · intro hmeant
    have hid : (engineFrame (after n).turn.2.rpm).wire.1 = CanSentinel.canIdEngineRpm := by
      rw [wire_engineFrame]
    obtain ⟨signals, hsignals, _, hstatus⟩ := hmeant.engine _ (engineFrame_mem _) hid
    rw [decode_engineFrame, Except.ok.injEq] at hsignals
    subst hsignals
    have hoff : some (SignalValue.str "OFF" : SignalValue R) = some (.str "RUNNING") := hstatus
    simp at hoff
  · rw [decode_engineFrame, rpm_turn h]
  · intro heven
    have hstep : (after n).step % 2 = 0 := by
      rw [step_after]
      exact (int32_mod_eq_zero_iff (by omega) (k := 2) (by decide)).mpr heven
    exact ⟨speedFrame_mem hstep, speed_turn h heven, decode_speedFrame _⟩

/-- The first engine frame at 25 rpm above idle. -/
theorem multi_demo_misread_one : ¬ DecodesAsMeant ℚ (after 1).turn :=
  (multi_demo_misread (R := ℚ) (n := 1) (by decide)).1

/-- At the first step the engine idles, and is reported as off. -/
theorem multi_demo_off : ¬ ∀ n, 25 * n < 2 ^ 31 → DecodesAsMeant ℚ (after n).turn := by
  intro hmeant
  obtain ⟨signals, hsignals, _, hstatus⟩ :=
    (hmeant 0 (by decide)).engine (engineFrame 800) (engineFrame_mem start) (by decide)
  rw [decode_engineFrame, Except.ok.injEq] at hsignals
  subst hsignals
  revert hstatus
  decide

end MultiDemo

end CanSentinel.C
