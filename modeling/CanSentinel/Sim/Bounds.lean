import CanSentinel.Sim.DrivingCycle

/-!
# The range of the vehicle

Whatever function stands for the sine, as long as its values lie in `[-1, 1]`,
the driving cycle keeps every quantity of the vehicle within bounds.

- `VehicleState.InBounds`: the bounds, which every state satisfies that the live
  loop (`PhysicsLoop.after_inBounds`) or the batch generator
  (`BatchState.after_inBounds`) reaches.
- `VehicleState.InBounds.encodable`: within the bounds no `struct.pack` raises.
- `generateBatch_ok`: so the generator returns a list, which is known frame by frame.
-/

namespace CanSentinel

variable {R : Type} [PyFloat R]

/-- The sine takes values in `[-1, 1]`. -/
def MathModule.SinBounded (math : MathModule R) : Prop := ∀ x, -1 ≤ math.sin x ∧ math.sin x ≤ 1

theorem MathModule.real_sinBounded : MathModule.real.SinBounded := fun x =>
  ⟨Real.neg_one_le_sin x, Real.sin_le_one x⟩

/-- The bounds of the driving cycle. -/
structure VehicleState.InBounds (v : VehicleState R) : Prop where
  speedKmh : 0 ≤ v.speedKmh ∧ v.speedKmh ≤ 78
  rpm : 775 ≤ v.rpm ∧ v.rpm ≤ 5400
  throttlePct : 0 ≤ v.throttlePct ∧ v.throttlePct ≤ 60
  brakePct : 0 ≤ v.brakePct ∧ v.brakePct ≤ 50
  gear : 0 ≤ v.gear ∧ v.gear ≤ 4
  engineTempC : 45 ≤ v.engineTempC ∧ v.engineTempC ≤ 90.05

/-! ## Phase by phase -/

namespace VehicleState

theorem gear_ite {p : Prop} [Decidable p] {a b : ℤ} (ha : 0 ≤ a ∧ a ≤ 4) (hb : 0 ≤ b ∧ b ≤ 4) :
    0 ≤ (if p then a else b) ∧ (if p then a else b) ≤ 4 :=
  iteInduction (motive := fun g : ℤ => 0 ≤ g ∧ g ≤ 4) (fun _ => ha) fun _ => hb

/-- A step of at most 0.05 from below 90 degrees does not leave the range. -/
theorem warming_mem {temp rise : R} (h : 45 ≤ temp ∧ temp ≤ 90.05)
    (hrise : 0 ≤ rise ∧ rise ≤ 0.05) :
    45 ≤ (if temp < 90.0 then temp + rise else temp) ∧
      (if temp < 90.0 then temp + rise else temp) ≤ 90.05 := by
  obtain ⟨hlow, hhigh⟩ := h
  obtain ⟨hrise0, hrise⟩ := hrise
  by_cases hcold : temp < 90.0
  · rw [if_pos hcold]
    norm_num at hcold hrise ⊢
    constructor
    · exact hlow.trans (le_add_of_nonneg_right hrise0)
    · linarith only [hcold, hrise]
  · rw [if_neg hcold]
    exact ⟨hlow, hhigh⟩

/-- A wave around `mid`. -/
theorem wave_mem {mid amp s lo hi : R} (hs : -1 ≤ s ∧ s ≤ 1) (hamp : 0 ≤ amp)
    (hlo : lo ≤ mid - amp) (hhi : mid + amp ≤ hi) :
    lo ≤ mid + amp * s ∧ mid + amp * s ≤ hi := by
  have hlow : amp * -1 ≤ amp * s := mul_le_mul_of_nonneg_left hs.1 hamp
  have hhigh : amp * s ≤ amp * 1 := mul_le_mul_of_nonneg_left hs.2 hamp
  constructor
  · linarith only [hlow, hlo]
  · linarith only [hhigh, hhi]

/-- A part of `top`, cut off below. -/
theorem cutoff_mem {bottom top part lo hi : R} (htop : 0 ≤ top) (hpart : part ≤ 1)
    (hlo : lo ≤ bottom) (hbottom : bottom ≤ hi) (hhi : top ≤ hi) :
    lo ≤ max bottom (top * part) ∧ max bottom (top * part) ≤ hi :=
  ⟨hlo.trans (le_max_left _ _),
    max_le hbottom ((mul_le_of_le_one_right htop hpart).trans hhi)⟩

/-- The engine speed under acceleration. -/
theorem accelerating_rpm_mem {throttle speed : R} (hthrottle : 20 ≤ throttle ∧ throttle ≤ 60)
    (hspeed : 0 ≤ speed ∧ speed ≤ 75) :
    775 ≤ 1200.0 + throttle * 45.0 + speed * 20.0 ∧
      1200.0 + throttle * 45.0 + speed * 20.0 ≤ 5400 := by
  norm_num
  constructor <;> linarith

theorem new_inBounds : (new : VehicleState R).InBounds where
  speedKmh := by norm_num [new]
  rpm := by norm_num [new]
  throttlePct := by norm_num [new]
  brakePct := by norm_num [new]
  gear := by norm_num [new]
  engineTempC := by norm_num [new]

variable {math : MathModule R} (hsin : math.SinBounded) {v : VehicleState R} {cycleT : R}

include hsin

theorem accelerate_inBounds (h : v.InBounds) (h0 : 0 ≤ cycleT) (h15 : cycleT < 15) :
    (v.accelerate math cycleT).InBounds := by
  have hspeed : 0 ≤ cycleT / 15.0 * 75.0 ∧ cycleT / 15.0 * 75.0 ≤ 75 := by
    norm_num
    constructor <;> linarith
  have hthrottle : 20 ≤ 40.0 + 20.0 * math.sin (cycleT / 15.0 * math.pi) ∧
      40.0 + 20.0 * math.sin (cycleT / 15.0 * math.pi) ≤ 60 :=
    wave_mem (hsin _) (by norm_num) (by norm_num) (by norm_num)
  constructor
  · exact ⟨hspeed.1, hspeed.2.trans (by norm_num)⟩
  · exact accelerating_rpm_mem hthrottle hspeed
  · exact ⟨hthrottle.1.trans' (by norm_num), hthrottle.2⟩
  · show (0 : R) ≤ 0.0 ∧ (0.0 : R) ≤ 50
    norm_num
  · exact gear_ite (by decide) (gear_ite (by decide) (gear_ite (by decide) (by decide)))
  · exact h.engineTempC

theorem cruise_inBounds (h : v.InBounds) : (v.cruise math cycleT).InBounds := by
  constructor
  · show 0 ≤ 75.0 + 3.0 * math.sin (cycleT * 0.5) ∧ 75.0 + 3.0 * math.sin (cycleT * 0.5) ≤ 78
    exact wave_mem (hsin _) (by norm_num) (by norm_num) (by norm_num)
  · show 775 ≤ 2100.0 + 100.0 * math.sin cycleT ∧ 2100.0 + 100.0 * math.sin cycleT ≤ 5400
    exact wave_mem (hsin _) (by norm_num) (by norm_num) (by norm_num)
  · show 0 ≤ 20.0 + 5.0 * math.sin cycleT ∧ 20.0 + 5.0 * math.sin cycleT ≤ 60
    exact wave_mem (hsin _) (by norm_num) (by norm_num) (by norm_num)
  · show (0 : R) ≤ 0.0 ∧ (0.0 : R) ≤ 50
    norm_num
  · show 0 ≤ (4 : ℤ) ∧ (4 : ℤ) ≤ 4
    decide
  · exact h.engineTempC

theorem decelerate_inBounds (h : v.InBounds) (h35 : 35 ≤ cycleT) :
    (v.decelerate math cycleT).InBounds := by
  have hrest : 1.0 - (cycleT - 35.0) / 13.0 ≤ 1 := by
    norm_num
    linarith
  constructor
  · exact cutoff_mem (by norm_num) hrest (by norm_num) (by norm_num) (by norm_num)
  · exact cutoff_mem (by norm_num) hrest (by norm_num) (by norm_num) (by norm_num)
  · show (0 : R) ≤ 0.0 ∧ (0.0 : R) ≤ 60
    norm_num
  · show 0 ≤ 35.0 + 15.0 * math.sin ((cycleT - 35.0) / 13.0 * math.pi) ∧
      35.0 + 15.0 * math.sin ((cycleT - 35.0) / 13.0 * math.pi) ≤ 50
    exact wave_mem (hsin _) (by norm_num) (by norm_num) (by norm_num)
  · -- the gear may be the one before
    exact gear_ite (by decide) (gear_ite (by decide) h.gear)
  · exact h.engineTempC

theorem idle_inBounds (h : v.InBounds) : (v.idle math cycleT).InBounds := by
  constructor
  · show (0 : R) ≤ 0.0 ∧ (0.0 : R) ≤ 78
    norm_num
  · show 775 ≤ 790.0 + 15.0 * math.sin cycleT ∧ 790.0 + 15.0 * math.sin cycleT ≤ 5400
    exact wave_mem (hsin _) (by norm_num) (by norm_num) (by norm_num)
  · show (0 : R) ≤ 0.0 ∧ (0.0 : R) ≤ 60
    norm_num
  · show (0 : R) ≤ 50.0 ∧ (50.0 : R) ≤ 50
    norm_num
  · show 0 ≤ (0 : ℤ) ∧ (0 : ℤ) ≤ 4
    decide
  · exact h.engineTempC

/-- The driving cycle keeps the bounds. -/
theorem drive_inBounds (h : v.InBounds) (h0 : 0 ≤ cycleT) : (v.drive math cycleT).InBounds := by
  unfold drive
  by_cases haccelerate : cycleT < 15.0
  · rw [if_pos haccelerate]
    norm_num at haccelerate
    exact accelerate_inBounds hsin h h0 haccelerate
  · rw [if_neg haccelerate]
    by_cases hcruise : cycleT < 35.0
    · rw [if_pos hcruise]
      exact cruise_inBounds hsin h
    · rw [if_neg hcruise]
      by_cases hbrake : cycleT < 48.0
      · rw [if_pos hbrake]
        norm_num at hcruise
        exact decelerate_inBounds hsin h hcruise
      · rw [if_neg hbrake]
        exact idle_inBounds hsin h

/-- **One pass keeps the bounds**, whatever its time. -/
theorem physics_inBounds (h : v.InBounds) (timeSec : R) : (v.physics math timeSec).InBounds := by
  have hdrive := drive_inBounds hsin h (pyMod_nonneg timeSec (y := 60.0) (by norm_num))
  have htemp : 45 ≤ (v.physics math timeSec).engineTempC ∧
      (v.physics math timeSec).engineTempC ≤ 90.05 := by
    rw [physics_engineTempC]
    exact warming_mem h.engineTempC (by norm_num)
  rw [physics, warmUp_eq]
  exact { hdrive with engineTempC := htemp }

omit hsin in
/-- Within the bounds every argument fits its format. -/
theorem InBounds.encodable (h : v.InBounds) : v.Encodable where
  rpm := ⟨h.rpm.1.trans' (by norm_num), h.rpm.2.trans_lt (by norm_num)⟩
  throttlePct := ⟨h.throttlePct.1, h.throttlePct.2.trans_lt (by norm_num)⟩
  speedKmh := ⟨h.speedKmh.1, h.speedKmh.2.trans_lt (by norm_num)⟩
  engineTempC := ⟨h.engineTempC.1.trans' (by norm_num), h.engineTempC.2.trans_lt (by norm_num)⟩
  brakePct := ⟨h.brakePct.1, h.brakePct.2.trans_lt (by norm_num)⟩
  gear := ⟨h.gear.1, h.gear.2.trans_lt (by norm_num)⟩

end VehicleState

/-- **The live loop keeps the bounds**, after any number of passes. -/
theorem PhysicsLoop.after_inBounds {math : MathModule R} (hsin : math.SinBounded) (k : ℕ) :
    (PhysicsLoop.after math k).vehicle.InBounds :=
  vehicle_inv math VehicleState.new_inBounds
    (fun timeSec _ h => VehicleState.physics_inBounds hsin h timeSec) k

/-! ## The batch generator -/

namespace BatchState

/-- The variables of the generator as a vehicle; the doors are locked and the
lights on. -/
def toVehicle (b : BatchState R) : VehicleState R where
  speedKmh := b.speed
  rpm := b.rpm
  engineTempC := b.temp
  throttlePct := b.throttle
  brakePct := b.brake
  gear := b.gear
  doorsLocked := 1
  headlights := 1

variable {math : MathModule R} {b : BatchState R}

theorem drive_temp (cycleT : R) : (b.drive math cycleT).temp = b.temp := by
  unfold drive
  repeat' split
  all_goals rfl

theorem physics_temp (t : R) :
    (b.physics math t).temp = if b.temp < 90.0 then b.temp + 0.005 else b.temp := by
  rw [physics, warmUp, drive_temp]
  split
  · rfl
  · exact drive_temp _

/-- A step of the generator is a step of the loop, apart from the gear. -/
theorem toVehicle_drive (cycleT : R) :
    (b.drive math cycleT).toVehicle =
      { b.toVehicle.drive math cycleT with gear := (b.drive math cycleT).gear } := by
  rw [drive_eq math cycleT b.toVehicle b, toVehicle, drive_temp]
  rfl

variable (hsin : math.SinBounded)

include hsin

theorem drive_inBounds (h : b.toVehicle.InBounds) {cycleT : R} (h0 : 0 ≤ cycleT) :
    (b.drive math cycleT).toVehicle.InBounds := by
  have hlive := VehicleState.drive_inBounds hsin h h0
  have hgear : 0 ≤ (b.drive math cycleT).gear ∧ (b.drive math cycleT).gear ≤ 4 := by
    by_cases hfast : BrakesFast cycleT
    · rw [drive_gear_of_brakesFast math hfast]
      decide
    · have hlivegear := hlive.gear
      rw [drive_eq math cycleT b.toVehicle b] at hlivegear
      simpa only [if_neg hfast] using hlivegear
  rw [toVehicle_drive]
  exact { hlive with gear := hgear }

/-- **One step keeps the bounds.** -/
theorem physics_inBounds (h : b.toVehicle.InBounds) (t : R) :
    (b.physics math t).toVehicle.InBounds := by
  have hdrive := drive_inBounds hsin h (pyMod_nonneg t (y := 60.0) (by norm_num))
  have htemp : 45 ≤ (b.physics math t).temp ∧ (b.physics math t).temp ≤ 90.05 := by
    rw [physics_temp]
    exact VehicleState.warming_mem h.engineTempC (by norm_num)
  have hwarm : (b.physics math t).toVehicle =
      { (b.drive math (pyMod t 60.0)).toVehicle with
        engineTempC := (b.physics math t).temp } := by
    rw [physics, warmUp_eq]
    rfl
  rw [hwarm]
  exact { hdrive with engineTempC := htemp }

/-- **The generator keeps the bounds**, after any number of steps. -/
theorem after_inBounds (n : ℕ) : (after math n).toVehicle.InBounds :=
  after_inv (I := fun b => b.toVehicle.InBounds) math VehicleState.new_inBounds
    (fun t _ h => physics_inBounds hsin h t) n

omit hsin in
/-- Within the bounds the generator packs what the ECU loops pack: the two ABS
flags are both off. -/
theorem args_eq (h : b.toVehicle.InBounds) (kind : EcuMessage) :
    b.args kind = kind.args b.toVehicle := by
  cases kind with
  | brake =>
    have hbrake : b.brake ≤ 50 := h.brakePct.2
    have hfloat : ¬ (70.0 < b.brake ∧ 40.0 < b.speed) := by
      rintro ⟨h70, _⟩
      norm_num at h70
      linarith
    have hint : ¬ (70 < pyInt b.brake ∧ 40 < pyInt b.speed) := by
      rintro ⟨h70, _⟩
      have hle : pyInt b.brake ≤ 50 := pyInt_le (by exact_mod_cast hbrake)
      omega
    show (pyInt b.brake, (if 70.0 < b.brake ∧ 40.0 < b.speed then 1 else 0), _) =
      (pyInt b.brake, (if 70 < pyInt b.brake ∧ 40 < pyInt b.speed then 1 else 0), _)
    rw [if_neg hfloat, if_neg hint]
    rfl
  | engineRpm => rfl
  | vehicleSpeed => rfl
  | engineTemp => rfl
  | transmission => rfl
  | bodyDoors => rfl
  | bodyClimate => rfl
  | lighting => rfl

end BatchState

/-- The frame of a step is that of a message about the vehicle of the step. -/
theorem batchFrame_eq {math : MathModule R} (hsin : math.SinBounded) (step : ℕ)
    (kind : EcuMessage) : batchFrame math step kind =
      kind.sent (BatchState.after math (step + 1)).toVehicle (batchTime step) := by
  rw [batchFrame, BatchState.args_eq (BatchState.after_inBounds hsin (step + 1))]
  rfl

/-- **The generator returns**, and its list is what the steps emit. -/
theorem generateBatch_ok {math : MathModule R} (hsin : math.SinBounded) (durationSec : R) :
    generateBatch math durationSec = .ok (batchFrames math (totalSteps durationSec)) := by
  have hfit : ∀ n kind, ArgsFit kind.fmt ((BatchState.after math (n + 1)).args kind) := by
    intro n kind
    have hbounds := BatchState.after_inBounds hsin (n + 1)
    rw [BatchState.args_eq hbounds]
    exact hbounds.encodable.argsFit kind
  rw [generateBatch, generateSteps_of_fit hfit]
  rfl

end CanSentinel
