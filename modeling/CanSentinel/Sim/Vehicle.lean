import CanSentinel.Lib.Python

/-!
# The simulated vehicle (`VehicleECUSimulator._physics_loop`)

A physics thread drives the vehicle through a cycle of 60 seconds: accelerating,
cruising, braking, idling at a stop. Each phase assigns the fields it is about;
the braking phase leaves the gear alone while the car is still fast.

- `MathModule`: `math.sin` and `math.pi`. Nothing is assumed of them here.
- `VehicleState.physics`: one pass of the loop body.
- `PhysicsLoop.after math k`: the loop after `k` passes, with its clock.
-/

namespace CanSentinel

variable {R : Type} [PyFloat R]

/-- What the simulator uses of Python's `math`. -/
structure MathModule (R : Type) where
  sin : R → R
  pi : R

/-- The real functions. -/
noncomputable def MathModule.real : MathModule ℝ := ⟨Real.sin, Real.pi⟩

/-- The physical state of `VehicleECUSimulator` that the ECUs transmit. -/
structure VehicleState (R : Type) where
  speedKmh : R
  rpm : R
  engineTempC : R
  throttlePct : R
  brakePct : R
  gear : ℤ
  doorsLocked : ℤ
  headlights : ℤ
deriving DecidableEq

namespace VehicleState

/-- `VehicleECUSimulator.__init__`. -/
def new : VehicleState R where
  speedKmh := 0.0
  rpm := 800.0
  engineTempC := 45.0
  throttlePct := 0.0
  brakePct := 0.0
  gear := 0
  doorsLocked := 1
  headlights := 1

variable (math : MathModule R)

/-- Accelerating. -/
def accelerate (cycleT : R) (self : VehicleState R) : VehicleState R :=
  let progress := cycleT / 15.0
  let throttlePct := 40.0 + 20.0 * math.sin (progress * math.pi)
  let speedKmh := progress * 75.0
  { self with
    throttlePct := throttlePct
    brakePct := 0.0
    speedKmh := speedKmh
    gear :=
      if speedKmh < 15.0 then 1 else if speedKmh < 35.0 then 2 else if speedKmh < 55.0 then 3 else 4
    rpm := 1200.0 + throttlePct * 45.0 + speedKmh * 20.0 }

/-- Cruising. -/
def cruise (cycleT : R) (self : VehicleState R) : VehicleState R :=
  { self with
    throttlePct := 20.0 + 5.0 * math.sin cycleT
    brakePct := 0.0
    speedKmh := 75.0 + 3.0 * math.sin (cycleT * 0.5)
    gear := 4
    rpm := 2100.0 + 100.0 * math.sin cycleT }

/-- Decelerating. -/
def decelerate (cycleT : R) (self : VehicleState R) : VehicleState R :=
  let brakeT := (cycleT - 35.0) / 13.0
  let speedKmh := max 0.0 (75.0 * (1.0 - brakeT))
  { self with
    throttlePct := 0.0
    brakePct := 35.0 + 15.0 * math.sin (brakeT * math.pi)
    speedKmh := speedKmh
    rpm := max 800.0 (2100.0 * (1.0 - brakeT))
    -- no branch for 30 km/h and more: the gear stays as it is
    gear := if speedKmh < 10.0 then 1 else if speedKmh < 30.0 then 2 else self.gear }

/-- Idling at a stop. -/
def idle (cycleT : R) (self : VehicleState R) : VehicleState R :=
  { self with
    throttlePct := 0.0
    brakePct := 50.0
    speedKmh := 0.0
    gear := 0
    rpm := 790.0 + 15.0 * math.sin cycleT }

/-- The driving cycle at its time `cycleT`. -/
def drive (cycleT : R) (self : VehicleState R) : VehicleState R :=
  if cycleT < 15.0 then self.accelerate math cycleT
  else if cycleT < 35.0 then self.cruise math cycleT
  else if cycleT < 48.0 then self.decelerate math cycleT
  else self.idle math cycleT

/-- The coolant warms up to 90 degrees. -/
def warmUp (self : VehicleState R) : VehicleState R :=
  if self.engineTempC < 90.0 then { self with engineTempC := self.engineTempC + 0.05 } else self

/-- The body of `_physics_loop` at time `timeSec`. -/
def physics (timeSec : R) (self : VehicleState R) : VehicleState R :=
  (self.drive math (pyMod timeSec 60.0)).warmUp

/-! ## What a pass leaves alone -/

@[simp] theorem drive_engineTempC (cycleT : R) (self : VehicleState R) :
    (self.drive math cycleT).engineTempC = self.engineTempC := by
  unfold drive
  repeat' split
  all_goals rfl

/-- Warming up moves the temperature only. -/
theorem warmUp_eq (self : VehicleState R) :
    self.warmUp = { self with engineTempC := self.warmUp.engineTempC } := by
  unfold warmUp
  split <;> rfl

@[simp] theorem physics_throttlePct (timeSec : R) (self : VehicleState R) :
    (self.physics math timeSec).throttlePct =
      (self.drive math (pyMod timeSec 60.0)).throttlePct := by
  rw [physics, warmUp_eq]

@[simp] theorem physics_brakePct (timeSec : R) (self : VehicleState R) :
    (self.physics math timeSec).brakePct = (self.drive math (pyMod timeSec 60.0)).brakePct := by
  rw [physics, warmUp_eq]

@[simp] theorem physics_speedKmh (timeSec : R) (self : VehicleState R) :
    (self.physics math timeSec).speedKmh = (self.drive math (pyMod timeSec 60.0)).speedKmh := by
  rw [physics, warmUp_eq]

@[simp] theorem physics_rpm (timeSec : R) (self : VehicleState R) :
    (self.physics math timeSec).rpm = (self.drive math (pyMod timeSec 60.0)).rpm := by
  rw [physics, warmUp_eq]

@[simp] theorem physics_gear (timeSec : R) (self : VehicleState R) :
    (self.physics math timeSec).gear = (self.drive math (pyMod timeSec 60.0)).gear := by
  rw [physics, warmUp_eq]

theorem physics_engineTempC (timeSec : R) (self : VehicleState R) :
    (self.physics math timeSec).engineTempC =
      if self.engineTempC < 90.0 then self.engineTempC + 0.05 else self.engineTempC := by
  rw [physics, warmUp, drive_engineTempC]
  split
  · rfl
  · exact drive_engineTempC math _ self

end VehicleState

/-! ## The loop -/

/-- `_physics_loop` between two passes. -/
structure PhysicsLoop (R : Type) where
  timeSec : R
  vehicle : VehicleState R
deriving DecidableEq

namespace PhysicsLoop

variable (math : MathModule R)

def start : PhysicsLoop R := ⟨0.0, .new⟩

/-- One pass of the loop. -/
def pass (self : PhysicsLoop R) : PhysicsLoop R :=
  ⟨self.timeSec + 0.05, self.vehicle.physics math self.timeSec⟩

/-- The loop after `k` passes. -/
def after : ℕ → PhysicsLoop R
  | 0 => start
  | k + 1 => (after k).pass math

/-- The clock of the loop, in exact arithmetic. -/
theorem timeSec_after (k : ℕ) : (after math k).timeSec = 0.05 * (k : R) := by
  induction k with
  | zero =>
    show (0.0 : R) = _
    norm_num
  | succ k ih =>
    show (after math k).timeSec + 0.05 = _
    rw [ih, Nat.cast_succ]
    ring

/-- The state pass `k` leaves. -/
theorem vehicle_after_succ (k : ℕ) :
    (after math (k + 1)).vehicle = (after math k).vehicle.physics math (0.05 * (k : R)) := by
  show (after math k).vehicle.physics math (after math k).timeSec = _
  rw [timeSec_after]

/-- **Invariants of the vehicle**: what every pass preserves, whatever its time. -/
theorem vehicle_inv {I : VehicleState R → Prop} (h : I .new)
    (hstep : ∀ timeSec self, I self → I (self.physics math timeSec)) (k : ℕ) :
    I (after math k).vehicle := by
  induction k with
  | zero => exact h
  | succ k ih => exact hstep _ _ ih

end PhysicsLoop

end CanSentinel
