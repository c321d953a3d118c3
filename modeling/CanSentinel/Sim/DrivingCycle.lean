import CanSentinel.Sim.Batch

/-!
# Two copies of the driving cycle

The live physics loop and the batch generator compute the same cycle, the one on
a state that persists and the other on variables it recomputes. They differ in
one place: while braking at 30 km/h or more the loop leaves the gear alone, and
the generator engages the third.

- `drive_eq`: one step of the loop in terms of a step of the generator at the same
  time of the cycle.
- `live_gear_eq_four`: the gear the loop keeps while it brakes is the fourth.
- `live_batch_agree_iff`: the moments at which both describe the same vehicle.
-/

namespace CanSentinel

variable {R : Type} [PyFloat R]

/-- The quantities both copies compute. -/
structure DrivesAlike (v : VehicleState R) (b : BatchState R) : Prop where
  throttle : v.throttlePct = b.throttle
  brake : v.brakePct = b.brake
  speed : v.speedKmh = b.speed
  gear : v.gear = b.gear
  rpm : v.rpm = b.rpm

/-! ## One step -/

/-- Braking, while the car is fast: where the loop assigns no gear. -/
def BrakesFast (cycleT : R) : Prop := 35.0 ≤ cycleT ∧ cycleT ≤ 42.8

instance (cycleT : R) : Decidable (BrakesFast cycleT) := inferInstanceAs (Decidable (_ ∧ _))

/-- The speed while braking falls below 30 km/h after 7.8 seconds. -/
theorem braking_speed_lt_iff (cycleT : R) :
    max 0.0 (75.0 * (1.0 - (cycleT - 35.0) / 13.0)) < 30.0 ↔ ¬ cycleT ≤ 42.8 := by
  rw [max_lt_iff, and_iff_right (by norm_num), not_le]
  norm_num
  constructor
  · intro h
    linarith
  · intro h
    linarith

variable (math : MathModule R)

/-- The gear chain of the loop lacks the last branch of the generator's. -/
theorem decelerate_gear {cycleT : R} (h : 35.0 ≤ cycleT) (v : VehicleState R) :
    (v.decelerate math cycleT).gear =
      if BrakesFast cycleT then v.gear
      else if max 0.0 (75.0 * (1.0 - (cycleT - 35.0) / 13.0)) < 10.0 then 1
      else if max 0.0 (75.0 * (1.0 - (cycleT - 35.0) / 13.0)) < 30.0 then 2 else 3 := by
  show (if max 0.0 (75.0 * (1.0 - (cycleT - 35.0) / 13.0)) < 10.0 then 1
    else if max 0.0 (75.0 * (1.0 - (cycleT - 35.0) / 13.0)) < 30.0 then 2 else v.gear) = _
  have hslow := braking_speed_lt_iff cycleT
  by_cases hfast : cycleT ≤ 42.8
  · have h30 := (not_congr hslow).mpr (not_not.mpr hfast)
    have h10 : ¬ max 0.0 (75.0 * (1.0 - (cycleT - 35.0) / 13.0)) < 10.0 := fun hlt =>
      h30 (hlt.trans (by norm_num))
    rw [if_neg h10, if_neg h30, if_pos ⟨h, hfast⟩]
  · have hnot : ¬ BrakesFast cycleT := fun hboth => hfast hboth.2
    rw [if_neg hnot, if_pos (hslow.mpr hfast), if_pos (hslow.mpr hfast)]

/-- **One step of the loop**, in terms of a step of the generator on any variables. -/
theorem drive_eq (cycleT : R) (v : VehicleState R) (b : BatchState R) :
    v.drive math cycleT =
      { v with
        throttlePct := (b.drive math cycleT).throttle
        brakePct := (b.drive math cycleT).brake
        speedKmh := (b.drive math cycleT).speed
        rpm := (b.drive math cycleT).rpm
        gear := if BrakesFast cycleT then v.gear else (b.drive math cycleT).gear } := by
  unfold VehicleState.drive BatchState.drive
  by_cases haccelerate : cycleT < 15.0
  · have hfast : ¬ BrakesFast cycleT := by
      rintro ⟨h, _⟩
      norm_num at haccelerate h
      linarith
    rw [if_pos haccelerate, if_pos haccelerate, if_neg hfast]
    rfl
  · rw [if_neg haccelerate, if_neg haccelerate]
    by_cases hcruise : cycleT < 35.0
    · have hfast : ¬ BrakesFast cycleT := by
        rintro ⟨h, _⟩
        exact absurd hcruise (not_lt.mpr h)
      rw [if_pos hcruise, if_pos hcruise, if_neg hfast]
      rfl
    · rw [if_neg hcruise, if_neg hcruise]
      by_cases hbrake : cycleT < 48.0
      · rw [if_pos hbrake, if_pos hbrake]
        have hgear := decelerate_gear math (not_lt.mp hcruise) v
        show v.decelerate math cycleT = { v with
          throttlePct := _, brakePct := _, speedKmh := _, rpm := _, gear := _ }
        rw [← hgear]
        rfl
      · have hfast : ¬ BrakesFast cycleT := by
          rintro ⟨_, h⟩
          norm_num at hbrake h
          linarith
        rw [if_neg hbrake, if_neg hbrake, if_neg hfast]
        rfl

/-- While the loop assigns no gear, the generator engages the third. -/
theorem drive_gear_of_brakesFast {cycleT : R} (h : BrakesFast cycleT) (b : BatchState R) :
    (b.drive math cycleT).gear = 3 := by
  obtain ⟨h35, hfast⟩ := h
  have hcruise : ¬ cycleT < 35.0 := not_lt.mpr h35
  have h15 : ¬ cycleT < 15.0 := fun h => hcruise (h.trans (by norm_num))
  have hbrake : cycleT < 48.0 := by
    norm_num at hfast ⊢
    linarith
  have h30 := (not_congr (braking_speed_lt_iff cycleT)).mpr (not_not.mpr hfast)
  have h10 : ¬ max 0.0 (75.0 * (1.0 - (cycleT - 35.0) / 13.0)) < 10.0 := fun hlt =>
    h30 (hlt.trans (by norm_num))
  rw [BatchState.drive, if_neg h15, if_neg hcruise, if_pos hbrake]
  show (if _ then 1 else if _ then 2 else 3) = (3 : ℤ)
  rw [if_neg h10, if_neg h30]

/-- While cruising the loop engages the fourth gear. -/
theorem drive_gear_of_cruising {cycleT : R} (h15 : 15.0 ≤ cycleT) (h35 : cycleT < 35.0)
    (v : VehicleState R) : (v.drive math cycleT).gear = 4 := by
  rw [VehicleState.drive, if_neg (not_lt.mpr h15), if_pos h35]
  rfl

/-- A pass of the loop and a step of the generator at one time differ in the gear
only. -/
theorem physics_drivesAlike_iff (t : R) (v : VehicleState R) (b : BatchState R) :
    DrivesAlike (v.physics math t) (b.physics math t) ↔
      (BrakesFast (pyMod t 60.0) → v.gear = 3) := by
  have hlive := drive_eq math (pyMod t 60.0) v b
  have hgear : (v.physics math t).gear = (b.physics math t).gear ↔
      (BrakesFast (pyMod t 60.0) → v.gear = 3) := by
    rw [VehicleState.physics_gear, BatchState.physics, BatchState.warmUp_eq, hlive]
    show (if _ then _ else _) = (b.drive math (pyMod t 60.0)).gear ↔ _
    by_cases hfast : BrakesFast (pyMod t 60.0)
    · rw [if_pos hfast, drive_gear_of_brakesFast math hfast]
      exact ⟨fun h _ => h, fun h => h hfast⟩
    · rw [if_neg hfast]
      exact iff_of_true rfl fun h => absurd h hfast
  constructor
  · rintro ⟨_, _, _, h, _⟩
    exact hgear.mp h
  · intro h
    refine ⟨?_, ?_, ?_, hgear.mpr h, ?_⟩
    · rw [VehicleState.physics_throttlePct, BatchState.physics, BatchState.warmUp_eq, hlive]
    · rw [VehicleState.physics_brakePct, BatchState.physics, BatchState.warmUp_eq, hlive]
    · rw [VehicleState.physics_speedKmh, BatchState.physics, BatchState.warmUp_eq, hlive]
    · rw [VehicleState.physics_rpm, BatchState.physics, BatchState.warmUp_eq, hlive]

/-! ## The two runs -/

/-- The time of the cycle at pass `k`: a pass is a 1200th of a cycle. -/
theorem cycleT_pass (k : ℕ) : pyMod (0.05 * (k : R)) 60.0 = 0.05 * (k % 1200 : ℕ) := by
  have hcycle : (60.0 : R) = 0.05 * (1200 : ℕ) := by norm_num
  rw [hcycle, pyMod_natCast_mul _ _ (by norm_num)]

theorem pass_le_iff (m n : ℕ) : (0.05 : R) * m ≤ 0.05 * n ↔ m ≤ n := by
  rw [mul_le_mul_iff_right₀ (by norm_num), Nat.cast_le]

theorem brakesFast_pass_iff (m : ℕ) :
    BrakesFast ((0.05 : R) * m) ↔ 700 ≤ m ∧ m ≤ 856 := by
  have h35 : (35.0 : R) = 0.05 * (700 : ℕ) := by norm_num
  have h42 : (42.8 : R) = 0.05 * (856 : ℕ) := by norm_num
  rw [BrakesFast, h35, h42, pass_le_iff, pass_le_iff]

/-- **The gear the loop brakes with.** From cruising until the speed falls below
30 km/h it is the fourth, by induction on the passes. -/
theorem live_gear_eq_four {k : ℕ} (h300 : 300 ≤ k % 1200) (h856 : k % 1200 ≤ 856) :
    (PhysicsLoop.after math (k + 1)).vehicle.gear = 4 := by
  induction k with
  | zero => omega
  | succ k ih =>
    rw [PhysicsLoop.vehicle_after_succ, VehicleState.physics_gear, cycleT_pass]
    by_cases hcruise : (k + 1) % 1200 < 700
    · refine drive_gear_of_cruising math ?_ ?_ _
      · have h15 : (15.0 : R) = 0.05 * (300 : ℕ) := by norm_num
        rw [h15, pass_le_iff]
        exact h300
      · have h35 : (35.0 : R) = 0.05 * (700 : ℕ) := by norm_num
        rw [h35, ← not_le, pass_le_iff, not_le]
        exact hcruise
    · -- the pass before was braking too, or the last one cruising
      have hfast : BrakesFast ((0.05 : R) * ((k + 1) % 1200 : ℕ)) :=
        (brakesFast_pass_iff _).mpr ⟨not_lt.mp hcruise, h856⟩
      have hprev := ih (by omega) (by omega)
      rw [drive_eq math _ _ BatchState.start]
      show (if _ then _ else _) = _
      rw [if_pos hfast, hprev]

/-- The time of step `10 k` of the generator is the time of pass `k` of the loop. -/
theorem stepTime_ten_mul (k : ℕ) : (stepTime (10 * k) : R) = 0.05 * k := by
  rw [stepTime]
  push_cast
  ring

/-- **When live and batch physics agree.** Pass `k` of the loop leaves what the
generator computes at its step `10 k`, except from 35 to 42.8 seconds of a cycle. -/
theorem live_batch_agree_iff (k : ℕ) :
    DrivesAlike (PhysicsLoop.after math (k + 1)).vehicle (BatchState.after math (10 * k + 1)) ↔
      k % 1200 < 700 ∨ 856 < k % 1200 := by
  rw [PhysicsLoop.vehicle_after_succ, BatchState.after, stepTime_ten_mul,
    physics_drivesAlike_iff, cycleT_pass, brakesFast_pass_iff]
  constructor
  · intro h
    by_contra hphase
    rw [not_or, not_lt, not_lt] at hphase
    obtain ⟨h700, h856⟩ := hphase
    cases k with
    | zero => omega
    | succ k =>
      have hfour := live_gear_eq_four math (k := k) (by omega) (by omega)
      have hthree := h ⟨h700, h856⟩
      omega
  · rintro hphase ⟨h700, h856⟩
    omega

/-- 35 seconds into the first cycle the loop is in fourth gear, where the generator
is in third. -/
theorem stale_gear_when_braking :
    (PhysicsLoop.after MathModule.real (700 + 1)).vehicle.gear = 4 ∧
      (BatchState.after MathModule.real (10 * 700 + 1)).gear = 3 ∧
      ¬ DrivesAlike (PhysicsLoop.after MathModule.real (700 + 1)).vehicle
        (BatchState.after MathModule.real (10 * 700 + 1)) := by
  have hlive : (PhysicsLoop.after MathModule.real (700 + 1)).vehicle.gear = 4 :=
    live_gear_eq_four MathModule.real (by decide) (by decide)
  have hbatch : (BatchState.after MathModule.real (10 * 700 + 1)).gear = 3 := by
    have hfast : BrakesFast (pyMod (stepTime (10 * 700) : ℝ) 60.0) := by
      rw [stepTime_ten_mul, cycleT_pass]
      exact (brakesFast_pass_iff _).mpr (by decide)
    rw [BatchState.after, BatchState.physics, BatchState.warmUp_eq]
    exact drive_gear_of_brakesFast MathModule.real hfast _
  refine ⟨hlive, hbatch, ?_⟩
  intro halike
  have := halike.gear
  omega

end CanSentinel
