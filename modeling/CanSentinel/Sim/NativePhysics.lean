import CanSentinel.Sim.Bounds
import CanSentinel.Sim.NativeEcu

/-!
# The physics of the C simulator (`c/ecu_sim.c`)

`physics_engine_thread` has four modes. Two of them run the driving cycle of the Python
simulator, with 3.1415 for π; idling and the highway are its own.

- `VehicleState.physics`: one pass of the thread's loop.
- `toPython_after`: in the cycle modes the thread is the Python loop with that constant.
- `Close`: two vehicles whose π differs stay close along a run.
- `native_cycle_close`: C and Python, pass by pass.
- `after_simulated`: the bounds of all modes.
-/

namespace CanSentinel.C

/-! ## The thread -/

/-- `sim_mode_t`. -/
inductive SimMode where
  | normalDrive
  | idle
  | highway
  | city
deriving DecidableEq

section Thread

variable {R : Type} [PyFloat R]

/-- `fmod`: the quotient is cut off towards zero. -/
def fmod (x y : R) : R := x - y * pyInt (x / y)

namespace VehicleState

/-- `g_vehicle` before the threads start. -/
def init : VehicleState R where
  speedKmh := 0.0
  rpm := 800.0
  engineTempC := 45.0
  throttlePct := 0.0
  brakePct := 0.0
  gear := 0
  doorsLocked := 1
  headlights := 1

variable (sin : R → R)

/-- The case of the driving cycle. -/
def driveCycle (timeSec : R) (self : VehicleState R) : VehicleState R :=
  let cycleT := fmod timeSec 60.0
  if cycleT < 15.0 then
    let progress := cycleT / 15.0
    let throttlePct := 40.0 + 20.0 * sin (progress * 3.1415)
    let speedKmh := progress * 75.0
    { self with
      throttlePct := throttlePct
      brakePct := 0.0
      speedKmh := speedKmh
      gear :=
        if speedKmh < 15.0 then 1 else if speedKmh < 35.0 then 2
        else if speedKmh < 55.0 then 3 else 4
      rpm := 1200.0 + throttlePct * 45.0 + speedKmh * 20.0 }
  else if cycleT < 35.0 then
    { self with
      throttlePct := 20.0 + 5.0 * sin cycleT
      brakePct := 0.0
      speedKmh := 75.0 + 3.0 * sin (cycleT * 0.5)
      gear := 4
      rpm := 2100.0 + 100.0 * sin cycleT }
  else if cycleT < 48.0 then
    let brakeT := (cycleT - 35.0) / 13.0
    let speedKmh := max 0.0 (75.0 * (1.0 - brakeT))
    { self with
      throttlePct := 0.0
      brakePct := 35.0 + 15.0 * sin (brakeT * 3.1415)
      speedKmh := speedKmh
      rpm := max 800.0 (2100.0 * (1.0 - brakeT))
      gear := if speedKmh < 10.0 then 1 else if speedKmh < 30.0 then 2 else self.gear }
  else
    { self with
      throttlePct := 0.0
      brakePct := 50.0
      speedKmh := 0.0
      gear := 0
      rpm := 790.0 + 15.0 * sin cycleT }

/-- The `switch`. -/
def drive (mode : SimMode) (timeSec : R) (self : VehicleState R) : VehicleState R :=
  match mode with
  | .idle =>
    { self with
      throttlePct := 0.0
      brakePct := 0.0
      speedKmh := 0.0
      rpm := 780.0 + 20.0 * sin (timeSec * 2.0)
      gear := 0 }
  | .highway =>
    { self with
      speedKmh := 115.0 + 10.0 * sin (timeSec * 0.1)
      gear := 6
      rpm := 2200.0 + 200.0 * sin (timeSec * 0.1)
      throttlePct := 28.0
      brakePct := 0.0 }
  | .city | .normalDrive => self.driveCycle sin timeSec

/-- The coolant. -/
def warmUp (self : VehicleState R) : VehicleState R :=
  if self.engineTempC < 90.0 then { self with engineTempC := self.engineTempC + 0.05 } else self

/-- The body of the loop at time `timeSec`. -/
def physics (mode : SimMode) (timeSec : R) (self : VehicleState R) : VehicleState R :=
  (self.drive sin mode timeSec).warmUp

end VehicleState

/-- `physics_engine_thread` between two passes. -/
structure PhysicsThread (R : Type) where
  timeSec : R
  vehicle : VehicleState R

namespace PhysicsThread

variable (sin : R → R) (mode : SimMode)

/-- One pass of the loop. -/
def pass (self : PhysicsThread R) : PhysicsThread R :=
  ⟨self.timeSec + 0.05, self.vehicle.physics sin mode self.timeSec⟩

/-- The thread after `k` passes. -/
def after : ℕ → PhysicsThread R
  | 0 => ⟨0.0, .init⟩
  | k + 1 => (after k).pass sin mode

end PhysicsThread

/-! ## The driving cycle of Python -/

theorem fmod_of_nonneg {x y : R} (hx : 0 ≤ x) (hy : 0 < y) : fmod x y = pyMod x y := by
  rw [fmod, pyInt, if_pos (div_nonneg hx hy.le), pyMod]

/-- A vehicle of the C simulator as one of the Python simulator. -/
def VehicleState.toPython (c : VehicleState R) : CanSentinel.VehicleState R where
  speedKmh := c.speedKmh
  rpm := c.rpm
  engineTempC := c.engineTempC
  throttlePct := c.throttlePct
  brakePct := c.brakePct
  gear := c.gear.toNat
  doorsLocked := c.doorsLocked.toNat
  headlights := c.headlights.toNat

/-- The C simulator's `sin`, and its constant for π. -/
def mathModule (sin : R → R) : MathModule R := ⟨sin, 3.1415⟩

namespace VehicleState

variable (sin : R → R)

theorem toPython_warmUp (c : VehicleState R) : c.warmUp.toPython = c.toPython.warmUp := by
  unfold warmUp CanSentinel.VehicleState.warmUp
  exact apply_ite toPython _ _ _

theorem toNat_gear_ite (p : Prop) [Decidable p] (a b : UInt8) :
    (((if p then a else b : UInt8).toNat : ℕ) : ℤ) = if p then (a.toNat : ℤ) else b.toNat :=
  apply_ite (fun g : UInt8 => (g.toNat : ℤ)) p a b

theorem toPython_driveCycle (c : VehicleState R) {timeSec : R} (h : 0 ≤ timeSec) :
    (c.driveCycle sin timeSec).toPython =
      c.toPython.drive (mathModule sin) (pyMod timeSec 60.0) := by
  rw [driveCycle, fmod_of_nonneg h (by norm_num), CanSentinel.VehicleState.drive]
  dsimp only
  by_cases haccelerate : pyMod timeSec 60.0 < 15.0
  · rw [if_pos haccelerate, if_pos haccelerate]
    simp only [toPython, toNat_gear_ite, CanSentinel.VehicleState.accelerate, mathModule]
    rfl
  · rw [if_neg haccelerate, if_neg haccelerate]
    by_cases hcruise : pyMod timeSec 60.0 < 35.0
    · rw [if_pos hcruise, if_pos hcruise]
      rfl
    · rw [if_neg hcruise, if_neg hcruise]
      by_cases hbrake : pyMod timeSec 60.0 < 48.0
      · rw [if_pos hbrake, if_pos hbrake]
        simp only [toPython, toNat_gear_ite, CanSentinel.VehicleState.decelerate, mathModule]
        rfl
      · rw [if_neg hbrake, if_neg hbrake]
        rfl

end VehicleState

/-- The modes that run the driving cycle. -/
def SimMode.Cycles : SimMode → Prop
  | .normalDrive | .city => True
  | .idle | .highway => False

theorem VehicleState.toPython_physics (sin : R → R) {mode : SimMode} (hmode : mode.Cycles)
    (c : VehicleState R) {timeSec : R} (h : 0 ≤ timeSec) :
    (c.physics sin mode timeSec).toPython = c.toPython.physics (mathModule sin) timeSec := by
  rw [physics, toPython_warmUp, CanSentinel.VehicleState.physics, ← toPython_driveCycle sin c h]
  cases mode with
  | normalDrive | city => rfl
  | idle | highway => exact hmode.elim

namespace PhysicsThread

theorem timeSec_after (sin : R → R) (mode : SimMode) (k : ℕ) :
    (after sin mode k).timeSec = 0.05 * (k : R) := by
  induction k with
  | zero =>
    show (0.0 : R) = _
    norm_num
  | succ k ih =>
    show (after sin mode k).timeSec + 0.05 = _
    rw [ih, Nat.cast_succ]
    ring

theorem vehicle_after_succ (sin : R → R) (mode : SimMode) (k : ℕ) :
    (after sin mode (k + 1)).vehicle =
      (after sin mode k).vehicle.physics sin mode (0.05 * (k : R)) := by
  show (after sin mode k).vehicle.physics sin mode (after sin mode k).timeSec = _
  rw [timeSec_after]

/-- **The C thread runs the Python loop**, with 3.1415 for π. -/
theorem toPython_after (sin : R → R) {mode : SimMode} (hmode : mode.Cycles) (k : ℕ) :
    (after sin mode k).vehicle.toPython = (PhysicsLoop.after (mathModule sin) k).vehicle := by
  induction k with
  | zero => rfl
  | succ k ih =>
    rw [vehicle_after_succ, VehicleState.toPython_physics sin hmode _ (by positivity), ih,
      PhysicsLoop.vehicle_after_succ]

end PhysicsThread

/-! ## Bounds of all modes -/

/-- What the C simulator keeps in every mode. -/
structure VehicleState.Simulated (c : VehicleState R) : Prop where
  speedKmh : 0 ≤ c.speedKmh ∧ c.speedKmh ≤ 125
  rpm : 760 ≤ c.rpm ∧ c.rpm ≤ 5400
  throttlePct : 0 ≤ c.throttlePct ∧ c.throttlePct ≤ 60
  brakePct : 0 ≤ c.brakePct ∧ c.brakePct ≤ 50
  engineTempC : 45 ≤ c.engineTempC ∧ c.engineTempC ≤ 90.05

/-- Within them no conversion leaves its type. -/
theorem VehicleState.Simulated.inRange {c : VehicleState R} (h : c.Simulated) : c.InRange where
  rpm := ⟨h.rpm.1.trans' (by norm_num), h.rpm.2.trans_lt (by norm_num)⟩
  throttlePct := ⟨h.throttlePct.1, h.throttlePct.2.trans_lt (by norm_num)⟩
  speedKmh := ⟨h.speedKmh.1, h.speedKmh.2.trans_lt (by norm_num)⟩
  engineTempC := ⟨h.engineTempC.1.trans' (by norm_num), h.engineTempC.2.trans_lt (by norm_num)⟩
  brakePct := ⟨h.brakePct.1, h.brakePct.2.trans_lt (by norm_num)⟩

theorem VehicleState.simulated_of_inBounds {c : VehicleState R} (h : c.toPython.InBounds) :
    c.Simulated where
  speedKmh := ⟨h.speedKmh.1, h.speedKmh.2.trans (by norm_num)⟩
  rpm := ⟨h.rpm.1.trans' (by norm_num), h.rpm.2⟩
  throttlePct := h.throttlePct
  brakePct := h.brakePct
  engineTempC := h.engineTempC

theorem VehicleState.init_simulated : (init : VehicleState R).Simulated where
  speedKmh := by norm_num [init]
  rpm := by norm_num [init]
  throttlePct := by norm_num [init]
  brakePct := by norm_num [init]
  engineTempC := by norm_num [init]

theorem VehicleState.Simulated.warmUp {c : VehicleState R} (h : c.Simulated) :
    c.warmUp.Simulated := by
  have hrise : (0 : R) ≤ 0.05 ∧ (0.05 : R) ≤ 0.05 := ⟨by norm_num, le_rfl⟩
  have htemp := CanSentinel.VehicleState.warming_mem h.engineTempC hrise
  unfold VehicleState.warmUp
  by_cases hcold : c.engineTempC < 90.0
  · rw [if_pos hcold] at htemp ⊢
    exact ⟨h.speedKmh, h.rpm, h.throttlePct, h.brakePct, htemp⟩
  · rw [if_neg hcold]
    exact h

variable {sin : R → R} (hsin : ∀ x, -1 ≤ sin x ∧ sin x ≤ 1)

include hsin

/-- A pass in the modes of C alone. -/
theorem VehicleState.Simulated.physics {mode : SimMode} (hmode : ¬ mode.Cycles)
    {c : VehicleState R} (h : c.Simulated) (timeSec : R) :
    (c.physics sin mode timeSec).Simulated := by
  refine VehicleState.Simulated.warmUp ?_
  cases mode with
  | normalDrive | city => exact absurd trivial hmode
  | idle =>
    constructor
    · show (0 : R) ≤ 0.0 ∧ (0.0 : R) ≤ 125
      norm_num
    · exact CanSentinel.VehicleState.wave_mem (hsin (timeSec * 2.0)) (by norm_num) (by norm_num)
        (by norm_num)
    · show (0 : R) ≤ 0.0 ∧ (0.0 : R) ≤ 60
      norm_num
    · show (0 : R) ≤ 0.0 ∧ (0.0 : R) ≤ 50
      norm_num
    · exact h.engineTempC
  | highway =>
    constructor
    · exact CanSentinel.VehicleState.wave_mem (hsin (timeSec * 0.1)) (by norm_num) (by norm_num)
        (by norm_num)
    · exact CanSentinel.VehicleState.wave_mem (hsin (timeSec * 0.1)) (by norm_num) (by norm_num)
        (by norm_num)
    · show (0 : R) ≤ 28.0 ∧ (28.0 : R) ≤ 60
      norm_num
    · show (0 : R) ≤ 0.0 ∧ (0.0 : R) ≤ 50
      norm_num
    · exact h.engineTempC

/-- **The bounds hold in every mode**, after any number of passes. -/
theorem PhysicsThread.after_simulated (mode : SimMode) (k : ℕ) :
    (after sin mode k).vehicle.Simulated := by
  by_cases hmode : mode.Cycles
  · refine VehicleState.simulated_of_inBounds ?_
    rw [toPython_after sin hmode]
    exact @PhysicsLoop.after_inBounds R _ (mathModule sin) hsin k
  · induction k with
    | zero => exact VehicleState.init_simulated
    | succ k ih => exact ih.physics hsin hmode _

end Thread

/-! ## The two constants -/

/-- Two vehicles of the driving cycle that use constants `δ` apart for π. -/
structure Close (δ : ℝ) (v w : CanSentinel.VehicleState ℝ) : Prop where
  speedKmh : v.speedKmh = w.speedKmh
  engineTempC : v.engineTempC = w.engineTempC
  gear : v.gear = w.gear
  throttlePct : |v.throttlePct - w.throttlePct| ≤ 20 * δ
  brakePct : |v.brakePct - w.brakePct| ≤ 15 * δ
  rpm : |v.rpm - w.rpm| ≤ 900 * δ

/-- Half a wave, reckoned with both constants. -/
theorem wave_close {p q δ amp x : ℝ} (hpq : |p - q| ≤ δ) (hamp : 0 ≤ amp) (hx : 0 ≤ x)
    (hx1 : x ≤ 1) (mid : ℝ) :
    |(mid + amp * Real.sin (x * p)) - (mid + amp * Real.sin (x * q))| ≤ amp * δ := by
  have harg : |x * p - x * q| ≤ δ := by
    rw [← mul_sub, abs_mul, abs_of_nonneg hx]
    exact (mul_le_of_le_one_left (abs_nonneg _) hx1).trans hpq
  have hsplit : (mid + amp * Real.sin (x * p)) - (mid + amp * Real.sin (x * q)) =
      amp * (Real.sin (x * p) - Real.sin (x * q)) := by ring
  rw [hsplit, abs_mul, abs_of_nonneg hamp]
  exact mul_le_mul_of_nonneg_left ((Real.abs_sin_sub_sin_le _ _).trans harg) hamp

section Close

variable {p q δ : ℝ} {v w : CanSentinel.VehicleState ℝ} {cycleT : ℝ}

theorem Close.accelerate (h : Close δ v w) (hpq : |p - q| ≤ δ) (h0 : 0 ≤ cycleT)
    (h15 : cycleT < 15.0) :
    Close δ (v.accelerate ⟨Real.sin, p⟩ cycleT) (w.accelerate ⟨Real.sin, q⟩ cycleT) := by
  have hδ : 0 ≤ δ := (abs_nonneg _).trans hpq
  have hprogress : cycleT / 15.0 ≤ 1 := (div_le_one (by norm_num)).mpr h15.le
  have hamp : (0 : ℝ) ≤ 20.0 := by norm_num
  have hthrottle := wave_close hpq hamp (div_nonneg h0 (by norm_num)) hprogress 40.0
  norm_num only at hthrottle
  refine ⟨rfl, h.engineTempC, rfl, ?_, ?_, ?_⟩
  · simp only [CanSentinel.VehicleState.accelerate]
    norm_num only
    exact hthrottle
  · simp only [CanSentinel.VehicleState.accelerate, sub_self, abs_zero]
    positivity
  · simp only [CanSentinel.VehicleState.accelerate, add_sub_add_right_eq_sub,
      add_sub_add_left_eq_sub, ← sub_mul, abs_mul]
    rw [add_sub_add_left_eq_sub] at hthrottle
    norm_num only
    linarith only [hthrottle]

theorem Close.cruise (h : Close δ v w) (hδ : 0 ≤ δ) :
    Close δ (v.cruise ⟨Real.sin, p⟩ cycleT) (w.cruise ⟨Real.sin, q⟩ cycleT) := by
  refine ⟨rfl, h.engineTempC, rfl, ?_, ?_, ?_⟩ <;>
  · simp only [CanSentinel.VehicleState.cruise, sub_self, abs_zero]
    positivity

theorem Close.decelerate (h : Close δ v w) (hpq : |p - q| ≤ δ) (h35 : 35.0 ≤ cycleT)
    (h48 : cycleT < 48.0) :
    Close δ (v.decelerate ⟨Real.sin, p⟩ cycleT) (w.decelerate ⟨Real.sin, q⟩ cycleT) := by
  have hδ : 0 ≤ δ := (abs_nonneg _).trans hpq
  have hpart : (cycleT - 35.0) / 13.0 ≤ 1 := by
    rw [div_le_one (by norm_num)]
    norm_num at h48 ⊢
    linarith only [h48]
  have hamp : (0 : ℝ) ≤ 15.0 := by norm_num
  have hbrake := wave_close hpq hamp (div_nonneg (sub_nonneg.mpr h35) (by norm_num)) hpart 35.0
  norm_num only at hbrake
  refine ⟨rfl, h.engineTempC, ?_, ?_, ?_, ?_⟩
  · simp only [CanSentinel.VehicleState.decelerate, h.gear]
  · simp only [CanSentinel.VehicleState.decelerate, sub_self, abs_zero]
    positivity
  · simp only [CanSentinel.VehicleState.decelerate]
    norm_num only
    exact hbrake
  · simp only [CanSentinel.VehicleState.decelerate, sub_self, abs_zero]
    positivity

theorem Close.idle (h : Close δ v w) (hδ : 0 ≤ δ) :
    Close δ (v.idle ⟨Real.sin, p⟩ cycleT) (w.idle ⟨Real.sin, q⟩ cycleT) := by
  refine ⟨rfl, h.engineTempC, rfl, ?_, ?_, ?_⟩ <;>
  · simp only [CanSentinel.VehicleState.idle, sub_self, abs_zero]
    positivity

theorem Close.drive (h : Close δ v w) (hpq : |p - q| ≤ δ) (h0 : 0 ≤ cycleT) :
    Close δ (v.drive ⟨Real.sin, p⟩ cycleT) (w.drive ⟨Real.sin, q⟩ cycleT) := by
  have hδ : 0 ≤ δ := (abs_nonneg _).trans hpq
  unfold CanSentinel.VehicleState.drive
  by_cases haccelerate : cycleT < 15.0
  · rw [if_pos haccelerate, if_pos haccelerate]
    exact h.accelerate hpq h0 haccelerate
  · rw [if_neg haccelerate, if_neg haccelerate]
    by_cases hcruise : cycleT < 35.0
    · rw [if_pos hcruise, if_pos hcruise]
      exact h.cruise hδ
    · rw [if_neg hcruise, if_neg hcruise]
      by_cases hbrake : cycleT < 48.0
      · rw [if_pos hbrake, if_pos hbrake]
        exact h.decelerate hpq (not_lt.mp hcruise) hbrake
      · rw [if_neg hbrake, if_neg hbrake]
        exact h.idle hδ

/-- The step. -/
theorem Close.physics (h : Close δ v w) (hpq : |p - q| ≤ δ) (timeSec : ℝ) :
    Close δ (v.physics ⟨Real.sin, p⟩ timeSec) (w.physics ⟨Real.sin, q⟩ timeSec) := by
  have hdrive := h.drive hpq (pyMod_nonneg timeSec (y := 60.0) (by norm_num))
  refine ⟨?_, ?_, ?_, ?_, ?_, ?_⟩
  · simp only [CanSentinel.VehicleState.physics_speedKmh, hdrive.speedKmh]
  · simp only [CanSentinel.VehicleState.physics_engineTempC, h.engineTempC]
  · simp only [CanSentinel.VehicleState.physics_gear, hdrive.gear]
  · simp only [CanSentinel.VehicleState.physics_throttlePct]
    exact hdrive.throttlePct
  · simp only [CanSentinel.VehicleState.physics_brakePct]
    exact hdrive.brakePct
  · simp only [CanSentinel.VehicleState.physics_rpm]
    exact hdrive.rpm

/-- The run. -/
theorem close_after (hpq : |p - q| ≤ δ) (k : ℕ) :
    Close δ (PhysicsLoop.after ⟨Real.sin, p⟩ k).vehicle (PhysicsLoop.after ⟨Real.sin, q⟩ k).vehicle := by
  have hδ : 0 ≤ δ := (abs_nonneg _).trans hpq
  induction k with
  | zero =>
    refine ⟨rfl, rfl, rfl, ?_, ?_, ?_⟩ <;>
    · rw [PhysicsLoop.after, PhysicsLoop.after, PhysicsLoop.start, sub_self, abs_zero]
      positivity
  | succ k ih =>
    rw [PhysicsLoop.vehicle_after_succ, PhysicsLoop.vehicle_after_succ]
    exact ih.physics hpq _

end Close

/-- Numbers less than 1 apart are transmitted as integers at most 1 apart. -/
theorem pyInt_close {x y : ℝ} (hx : 0 ≤ x) (hy : 0 ≤ y) (h : |x - y| < 1) :
    |pyInt x - pyInt y| ≤ 1 := by
  rw [pyInt, pyInt, if_pos hx, if_pos hy, abs_le]
  rw [abs_lt] at h
  have hfloor : ∀ {a b : ℝ}, a - b < 1 → ⌊a⌋ ≤ ⌊b⌋ + 1 := by
    intro a b hab
    rw [← Int.floor_add_one]
    exact Int.floor_le_floor (by linarith only [hab])
  have hup := hfloor h.2
  have hdown := hfloor (by linarith only [h.1] : y - x < 1)
  omega

/-- **The C simulator and the Python simulator, pass by pass.** In the modes of the driving
cycle the C thread has, after any number of passes, the speed, the temperature and the gear of
the Python loop. Because of its constant for π the throttle, the brakes and the engine speed
differ, by less than 0.002, 0.0015 and 0.09, so that each number in an engine or brake frame
differs by one at most. -/
theorem native_cycle_close {mode : SimMode} (hmode : mode.Cycles) (k : ℕ) :
    let v := (PhysicsLoop.after MathModule.real k).vehicle
    let c := (PhysicsThread.after Real.sin mode k).vehicle
    (v.speedKmh = c.speedKmh ∧ v.engineTempC = c.engineTempC ∧ v.gear = c.gear.toNat) ∧
      (|v.throttlePct - c.throttlePct| ≤ 0.002 ∧ |v.brakePct - c.brakePct| ≤ 0.0015 ∧
        |v.rpm - c.rpm| ≤ 0.09) ∧
      |pyInt v.throttlePct - pyInt c.throttlePct| ≤ 1 ∧
      |pyInt v.brakePct - pyInt c.brakePct| ≤ 1 ∧
      |pyInt v.rpm - pyInt c.rpm| ≤ 1 := by
  dsimp only
  have hpi : |Real.pi - 3.1415| ≤ 0.0001 := by
    have hlow := Real.pi_gt_d4
    have hhigh := Real.pi_lt_d4
    rw [abs_le]
    constructor
    · linarith only [hlow]
    · norm_num at hhigh ⊢
      linarith only [hhigh]
  have hclose := close_after hpi k
  rw [show (⟨Real.sin, 3.1415⟩ : MathModule ℝ) = mathModule Real.sin from rfl,
    ← PhysicsThread.toPython_after Real.sin hmode k] at hclose
  have hv := PhysicsLoop.after_inBounds MathModule.real_sinBounded k
  have hc := (PhysicsThread.after_simulated
    (fun x => ⟨Real.neg_one_le_sin x, Real.sin_le_one x⟩) mode k).inRange
  have hthrottle := hclose.throttlePct.trans (by norm_num : (20 : ℝ) * 0.0001 ≤ 0.002)
  have hbrake := hclose.brakePct.trans (by norm_num : (15 : ℝ) * 0.0001 ≤ 0.0015)
  have hrpm := hclose.rpm.trans (by norm_num : (900 : ℝ) * 0.0001 ≤ 0.09)
  refine ⟨⟨hclose.speedKmh, hclose.engineTempC, hclose.gear⟩, ⟨hthrottle, hbrake, hrpm⟩, ?_, ?_, ?_⟩
  · exact pyInt_close hv.throttlePct.1 hc.throttlePct.1 (hthrottle.trans_lt (by norm_num))
  · exact pyInt_close hv.brakePct.1 hc.brakePct.1 (hbrake.trans_lt (by norm_num))
  · exact pyInt_close (hv.rpm.1.trans' (by norm_num)) hc.rpm.1
      (hrpm.trans_lt (by norm_num))

theorem native_cycle_close_city :
    (PhysicsLoop.after MathModule.real 700).vehicle.speedKmh =
      (PhysicsThread.after Real.sin .city 700).vehicle.speedKmh :=
  (@native_cycle_close .city trivial 700).1.1

end CanSentinel.C
