import CanSentinel.Lib.Machine
import CanSentinel.Sim.Bounds

/-!
# The live simulator

Five threads run at once: the physics loop and four ECUs, each of which snapshots
the state under the lock, broadcasts its messages and sleeps. An exception in an
ECU loop ends that thread for good, while the others go on.

- `Ecu`, `SimSystem.step`: the threads and their interleaving; a step is one pass of
  the physics or one iteration of an ECU.
- `CANFrame.WellFormed`: what a frame of the simulator is.
- `simulator_in_range`: no thread ever ends, and all frames are well formed; nor
  does the batch generator raise.
-/

namespace CanSentinel

variable {R : Type} [PyFloat R]

/-! ## Threads -/

/-- The ECU threads of `start`. -/
inductive Ecu where
  | engine
  | transmission
  | brake
  | body
deriving DecidableEq

/-- The messages of an iteration, by its number. -/
def Ecu.kinds : Ecu → ℕ → List EcuMessage
  | engine, tick => engineEcuLoop tick
  | transmission, _ => transmissionEcuLoop
  | brake, _ => brakeEcuLoop
  | body, tick => bodyEcuLoop tick

/-- `time.sleep(…)` at the end of an iteration. -/
def Ecu.sleep : Ecu → R
  | engine => 0.02
  | transmission => 0.05
  | brake => 0.01
  | body => 0.1

/-- The simulator while it runs: the physics thread, and for each ECU the number of
its next iteration, or nothing once an exception has ended it. -/
structure SimSystem (R : Type) where
  loop : PhysicsLoop R
  tick : Ecu → Option ℕ

/-- What the threads do: a pass of the physics, and an iteration of an ECU that reads
the clock as `now`. -/
inductive SimEvent (R : Type) where
  | physics
  | ecu (ecu : Ecu) (now : R)

namespace SimSystem

/-- `start`. -/
def start : SimSystem R := ⟨.start, fun _ => some 0⟩

variable (math : MathModule R)

/-- One step of one thread, with the frames it broadcasts. -/
def step (s : SimSystem R) : SimEvent R → List (CANFrame R) × SimSystem R
  | .physics => ([], { s with loop := s.loop.pass math })
  | .ecu ecu now =>
    match s.tick ecu with
    | none => ([], s)
    | some tick =>
      let (sent, out) := iteration s.loop.vehicle now (ecu.kinds tick)
      let next := match out with
        | .ok () => some (tick + 1)
        | .error _ => none
      (sent, { s with tick := Function.update s.tick ecu next })

end SimSystem

/-! ## Frames -/

/-- A frame of the simulator: its DLC is the length of its data, its RPM are those of
an engine, and its ABS flag is off. -/
structure CANFrame.WellFormed (frame : CANFrame R) : Prop where
  dlc : frame.dlc = frame.data.length
  short : frame.data.length ≤ 8
  rpm : frame.canId = canIdEngineRpm →
    750 ≤ ByteOrder.big.decode (frame.data.take 2) ∧
      ByteOrder.big.decode (frame.data.take 2) ≤ 7000
  abs : frame.canId = canIdBrakeOverride → frame.data[1]? = some 0

/-- **A message about a vehicle within bounds is well formed.** -/
theorem EcuMessage.sent_wellFormed {v : VehicleState R} (h : v.InBounds) (kind : EcuMessage)
    (now : R) : (kind.sent v now).WellFormed where
  dlc := by
    rw [kind.length_sent]
    exact frame_dlc kind now _
  short := (kind.length_sent v now).trans_le kind.dlc_le_eight
  rpm := by
    intro hid
    obtain rfl : kind = .engineRpm := canId_injective hid
    obtain ⟨hlow, hhigh⟩ := h.encodable.rpm_mem
    have hdecode : ByteOrder.big.decode ((EcuMessage.engineRpm.sent v now).data.take 2) =
        (pyInt v.rpm).toNat := by
      show ByteOrder.big.decode (ByteOrder.big.encode 2 (pyInt v.rpm).toNat) = _
      exact ByteOrder.big.decode_encode_of_lt (by omega)
    have hmin : 775 ≤ pyInt v.rpm := le_pyInt (by exact_mod_cast h.rpm.1)
    have hmax : pyInt v.rpm ≤ 5400 := pyInt_le (by exact_mod_cast h.rpm.2)
    rw [hdecode]
    omega
  abs := by
    intro hid
    obtain rfl : kind = .brake := canId_injective hid
    have hoff : ¬ (70 < pyInt v.brakePct ∧ 40 < pyInt v.speedKmh) := by
      rintro ⟨h70, _⟩
      have hmax : pyInt v.brakePct ≤ 50 := pyInt_le (by exact_mod_cast h.brakePct.2)
      omega
    show some (UInt8.ofNat (if 70 < pyInt v.brakePct ∧ 40 < pyInt v.speedKmh then (1 : ℤ)
      else 0).toNat) = _
    rw [if_neg hoff]
    rfl

/-- The frames of the generator are well formed. -/
theorem batchFrames_wellFormed {math : MathModule R} (hsin : math.SinBounded) (n : ℕ) :
    ∀ frame ∈ batchFrames math n, frame.WellFormed := by
  intro frame hframe
  obtain ⟨step, _, hstep⟩ := List.mem_flatMap.mp hframe
  obtain ⟨kind, _, rfl⟩ := List.mem_map.mp hstep
  rw [batchFrame_eq hsin]
  exact kind.sent_wellFormed (BatchState.after_inBounds hsin (step + 1)) _

/-! ## Runs -/

namespace SimSystem

variable {math : MathModule R} (hsin : math.SinBounded)

/-- Every thread runs, on a vehicle within bounds. -/
structure Healthy (s : SimSystem R) : Prop where
  vehicle : s.loop.vehicle.InBounds
  alive : ∀ ecu, (s.tick ecu).isSome

theorem start_healthy : (start : SimSystem R).Healthy :=
  ⟨VehicleState.new_inBounds, fun _ => rfl⟩

include hsin

/-- **One step**: the system stays healthy, and what it broadcasts is well formed. -/
theorem step_healthy {s : SimSystem R} (h : s.Healthy) (event : SimEvent R) :
    (s.step math event).2.Healthy ∧ ∀ frame ∈ (s.step math event).1, frame.WellFormed := by
  cases event with
  | physics =>
    refine ⟨⟨VehicleState.physics_inBounds hsin h.vehicle _, h.alive⟩, ?_⟩
    intro frame hframe
    cases hframe
  | ecu ecu now =>
    obtain ⟨tick, htick⟩ := Option.isSome_iff_exists.mp (h.alive ecu)
    have hstep : s.step math (.ecu ecu now) =
        ((ecu.kinds tick).map fun kind => kind.sent s.loop.vehicle now,
          { s with tick := Function.update s.tick ecu (some (tick + 1)) }) := by
      rw [step, htick]
      dsimp only
      rw [iteration_of_encodable h.vehicle.encodable]
    rw [hstep]
    constructor
    · refine ⟨h.vehicle, ?_⟩
      intro other
      by_cases hother : other = ecu
      · subst hother
        simp
      · simpa [hother] using h.alive other
    · intro frame hframe
      obtain ⟨kind, _, rfl⟩ := List.mem_map.mp hframe
      exact kind.sent_wellFormed h.vehicle now

/-- The system stays healthy along every run. -/
theorem final_healthy (events : List (SimEvent R)) :
    (Machine.final (step math) start events).Healthy :=
  Machine.final_inv start_healthy (fun _ event h => (step_healthy hsin h event).1) events

/-- Everything broadcast along a run is well formed. -/
theorem outputs_wellFormed (events : List (SimEvent R)) :
    ∀ frame ∈ (Machine.outputs (step math) start events).flatten, frame.WellFormed := by
  intro frame hframe
  obtain ⟨sent, hsent, hmem⟩ := List.mem_flatten.mp hframe
  obtain ⟨pre, event, post, _, rfl⟩ := (Machine.mem_outputs_iff _ _ _ _).mp hsent
  exact (step_healthy hsin (final_healthy hsin pre) event).2 frame hmem

end SimSystem

/-- **The simulator never leaves its ranges.** The live loop and the generator keep
the vehicle within bounds; whatever the interleaving, no ECU thread is ended by an
exception and every broadcast frame is well formed; and the generator returns a
list of well-formed frames for every duration. -/
theorem simulator_in_range {math : MathModule R} (hsin : math.SinBounded) :
    (∀ k, (PhysicsLoop.after math k).vehicle.InBounds) ∧
      (∀ n, (BatchState.after math n).toVehicle.InBounds) ∧
      (∀ events : List (SimEvent R),
        (∀ ecu, ((Machine.final (SimSystem.step math) .start events).tick ecu).isSome) ∧
          ∀ frame ∈ (Machine.outputs (SimSystem.step math) .start events).flatten,
            frame.WellFormed) ∧
      ∀ durationSec, ∃ frames, generateBatch math durationSec = .ok frames ∧
        ∀ frame ∈ frames, frame.WellFormed := by
  refine ⟨PhysicsLoop.after_inBounds hsin, BatchState.after_inBounds hsin, ?_, ?_⟩
  · intro events
    exact ⟨(SimSystem.final_healthy hsin events).alive,
      SimSystem.outputs_wellFormed hsin events⟩
  · intro durationSec
    exact ⟨_, generateBatch_ok hsin durationSec, batchFrames_wellFormed hsin _⟩

/-- With the real sine. -/
theorem simulator_in_range_real :
    (∀ k, (PhysicsLoop.after MathModule.real k).vehicle.InBounds) ∧
      (∀ n, (BatchState.after MathModule.real n).toVehicle.InBounds) ∧
      (∀ events : List (SimEvent ℝ),
        (∀ ecu, ((Machine.final (SimSystem.step MathModule.real) .start events).tick
          ecu).isSome) ∧
          ∀ frame ∈ (Machine.outputs (SimSystem.step MathModule.real) .start events).flatten,
            frame.WellFormed) ∧
      ∀ durationSec, ∃ frames, generateBatch MathModule.real durationSec = .ok frames ∧
        ∀ frame ∈ frames, frame.WellFormed :=
  simulator_in_range MathModule.real_sinBounded

end CanSentinel
