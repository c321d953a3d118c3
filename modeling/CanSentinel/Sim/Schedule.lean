import CanSentinel.Sim.Live
import CanSentinel.Sim.Timeline

/-!
# Two transmission schedules

In nominal time, iteration `i` of an ECU loop starts at `i` times its sleep, and a
message goes out in every iteration or in every second or fifth. The batch
generator counts steps of 5 ms instead. The two agree on the period of every id but
the speed, which the loop sends every 40 ms and the generator every 50.

- `liveSchedule`, `batchSchedule`: the (time, id) pairs before a horizon.
- `mem_liveSchedule_iff`, `mem_batchSchedule_iff`: both as multiples of periods.
- `schedules_agree_iff`: they are equal for the first 40 ms only.
-/

namespace CanSentinel

variable {R : Type} [PyFloat R]

/-! ## The schedules -/

/-- What the live loops emit before `T`, when iteration `i` of an ECU finds the vehicle
in the state `vehicle ecu i`. -/
def liveSchedule (vehicle : Ecu → ℕ → VehicleState R) (T : R) : Set (R × ℤ) :=
  {e | e.1 < T ∧ ∃ (ecu : Ecu) (i : ℕ), e.1 = (i : R) * ecu.sleep ∧
    ∃ frame ∈ (iteration (vehicle ecu i) e.1 (ecu.kinds i)).1, frame.canId = e.2}

/-- What the generator emits before `T`, for durations long enough, as times since its
base timestamp. -/
def batchSchedule (math : MathModule R) (T : R) : Set (R × ℤ) :=
  {e | e.1 < T ∧ ∃ durationSec frames, generateBatch math durationSec = .ok frames ∧
    ∃ frame ∈ frames, e = (frame.timestamp - 1000000.0, frame.canId)}

namespace EcuMessage

/-- The ECU that sends a message. -/
def ecu : EcuMessage → Ecu
  | engineRpm => .engine
  | vehicleSpeed => .engine
  | engineTemp => .engine
  | transmission => .transmission
  | brake => .brake
  | bodyDoors => .body
  | bodyClimate => .body
  | lighting => .body

/-- The number of iterations from one message of a kind to the next. -/
def ticks : EcuMessage → ℕ
  | engineRpm => 1
  | vehicleSpeed => 2
  | engineTemp => 5
  | transmission => 1
  | brake => 1
  | bodyDoors => 1
  | bodyClimate => 2
  | lighting => 1

theorem mem_kinds_iff (kind : EcuMessage) (ecu : Ecu) (i : ℕ) :
    kind ∈ ecu.kinds i ↔ ecu = kind.ecu ∧ i % kind.ticks = 0 := by
  cases ecu <;> cases kind <;>
    simp [Ecu.kinds, engineEcuLoop, transmissionEcuLoop, brakeEcuLoop, bodyEcuLoop,
      EcuMessage.ecu, ticks, Nat.mod_one]

/-- The time from one message of a kind to the next, live and in a batch. -/
def livePeriod (kind : EcuMessage) : R := (kind.ticks : R) * kind.ecu.sleep

def batchPeriod (kind : EcuMessage) : R := (kind.period : R) * 0.005

/-- **The periods agree**, with one exception. -/
theorem livePeriod_eq {kind : EcuMessage} (h : kind ≠ .vehicleSpeed) :
    (kind.livePeriod : R) = kind.batchPeriod := by
  cases kind with
  | vehicleSpeed => exact absurd rfl h
  | _ => norm_num [livePeriod, batchPeriod, ticks, period, EcuMessage.ecu, Ecu.sleep]

theorem livePeriod_vehicleSpeed : (vehicleSpeed.livePeriod : R) = 0.04 := by
  norm_num [livePeriod, ticks, EcuMessage.ecu, Ecu.sleep]

theorem batchPeriod_vehicleSpeed : (vehicleSpeed.batchPeriod : R) = 0.05 := by
  norm_num [batchPeriod, period]

end EcuMessage

/-! ## Multiples of periods -/

/-- The live schedule, on vehicles about which everything can be packed. -/
theorem mem_liveSchedule_iff {vehicle : Ecu → ℕ → VehicleState R}
    (h : ∀ ecu i, (vehicle ecu i).Encodable) (T : R) (e : R × ℤ) :
    e ∈ liveSchedule vehicle T ↔
      e.1 < T ∧ ∃ (kind : EcuMessage) (j : ℕ), e = ((j : R) * kind.livePeriod, kind.canId) := by
  refine and_congr_right fun _ => ?_
  constructor
  · rintro ⟨ecu, i, htime, frame, hframe, hid⟩
    rw [iteration_of_encodable (h ecu i)] at hframe
    obtain ⟨kind, hkind, rfl⟩ := List.mem_map.mp hframe
    obtain ⟨rfl, hmod⟩ := (kind.mem_kinds_iff ecu i).mp hkind
    obtain ⟨j, rfl⟩ := Nat.dvd_of_mod_eq_zero hmod
    refine ⟨kind, j, Prod.ext ?_ hid.symm⟩
    rw [htime, EcuMessage.livePeriod]
    push_cast
    ring
  · rintro ⟨kind, j, rfl⟩
    refine ⟨kind.ecu, kind.ticks * j, ?_, ?_⟩
    · rw [EcuMessage.livePeriod]
      push_cast
      ring
    · rw [iteration_of_encodable (h _ _)]
      have hmem : kind ∈ kind.ecu.kinds (kind.ticks * j) :=
        (kind.mem_kinds_iff _ _).mpr ⟨rfl, Nat.mul_mod_right _ _⟩
      exact ⟨_, List.mem_map_of_mem hmem, rfl⟩

/-- The batch schedule. -/
theorem mem_batchSchedule_iff {math : MathModule R} (hsin : math.SinBounded) (T : R)
    (e : R × ℤ) :
    e ∈ batchSchedule math T ↔
      e.1 < T ∧ ∃ (kind : EcuMessage) (j : ℕ), e = ((j : R) * kind.batchPeriod, kind.canId) := by
  have htime : ∀ step, (batchTime step : R) - 1000000.0 = (step : R) * 0.005 := by
    intro step
    rw [batchTime, add_sub_cancel_left]
    rfl
  have horder : ∀ kind : EcuMessage, kind ∈ batchOrder := by
    intro kind
    cases kind <;> decide
  refine and_congr_right fun _ => ?_
  constructor
  · rintro ⟨durationSec, frames, hframes, frame, hframe, rfl⟩
    rw [generateBatch_ok hsin] at hframes
    obtain rfl := Except.ok.inj hframes
    obtain ⟨step, _, hstep⟩ := List.mem_flatMap.mp hframe
    obtain ⟨kind, hkind, rfl⟩ := List.mem_map.mp hstep
    have hmod : step % kind.period = 0 := by simpa using (List.mem_filter.mp hkind).2
    obtain ⟨j, rfl⟩ := Nat.dvd_of_mod_eq_zero hmod
    refine ⟨kind, j, Prod.ext ?_ rfl⟩
    show batchTime (kind.period * j) - 1000000.0 = _
    rw [htime, EcuMessage.batchPeriod]
    push_cast
    ring
  · rintro ⟨kind, j, rfl⟩
    -- any batch that has the step of the frame
    refine ⟨((kind.period * j + 1 : ℕ) : R) * 0.005, _, generateBatch_ok hsin _,
      batchFrame math (kind.period * j) kind, ?_, Prod.ext ?_ rfl⟩
    · rw [totalSteps_natCast]
      refine List.mem_flatMap.mpr ⟨_, List.mem_range.mpr (Nat.lt_succ_self _), ?_⟩
      refine List.mem_map_of_mem (List.mem_filter.mpr ⟨horder kind, ?_⟩)
      simp
    · show _ = batchTime (kind.period * j) - 1000000.0
      rw [htime, EcuMessage.batchPeriod]
      push_cast
      ring

/-- The times of one id. -/
theorem exists_kind_iff (periodOf : EcuMessage → R) (t : R) (kind : EcuMessage) :
    (∃ (other : EcuMessage) (j : ℕ), (t, kind.canId) = ((j : R) * periodOf other, other.canId)) ↔
      ∃ j : ℕ, t = (j : R) * periodOf kind := by
  constructor
  · rintro ⟨other, j, he⟩
    obtain ⟨ht, hid⟩ := Prod.ext_iff.mp he
    obtain rfl : kind = other := EcuMessage.canId_injective hid
    exact ⟨j, ht⟩
  · rintro ⟨j, rfl⟩
    exact ⟨kind, j, rfl⟩

section Agreement

variable {math : MathModule R} (hsin : math.SinBounded) {vehicle : Ecu → ℕ → VehicleState R}
  (h : ∀ ecu i, (vehicle ecu i).Encodable)

include hsin h

/-- The schedules of every id but the speed agree over every horizon. -/
theorem schedules_agree_of_ne {kind : EcuMessage} (hkind : kind ≠ .vehicleSpeed) (T t : R) :
    (t, kind.canId) ∈ liveSchedule vehicle T ↔ (t, kind.canId) ∈ batchSchedule math T := by
  rw [mem_liveSchedule_iff h, mem_batchSchedule_iff hsin, exists_kind_iff, exists_kind_iff,
    EcuMessage.livePeriod_eq hkind]

/-- Beyond 40 ms the live loops have sent a speed frame that no batch has. -/
theorem live_speed_not_in_batch {T : R} (hT : 0.04 < T) :
    (0.04, canIdVehicleSpeed) ∈ liveSchedule vehicle T ∧
      (0.04, canIdVehicleSpeed) ∉ batchSchedule math T := by
  constructor
  · refine (mem_liveSchedule_iff h T _).mpr ⟨hT, ?_⟩
    refine (exists_kind_iff _ _ .vehicleSpeed).mpr ⟨1, ?_⟩
    rw [EcuMessage.livePeriod_vehicleSpeed, Nat.cast_one, one_mul]
  · intro hmem
    obtain ⟨_, hkind⟩ := (mem_batchSchedule_iff hsin T _).mp hmem
    obtain ⟨j, hj⟩ := (exists_kind_iff _ _ .vehicleSpeed).mp hkind
    rw [EcuMessage.batchPeriod_vehicleSpeed] at hj
    -- 40 is not a multiple of 50
    have hcast : ((4 : ℕ) : R) = (j * 5 : ℕ) := by
      push_cast
      norm_num at hj
      linarith
    have : 4 = j * 5 := by exact_mod_cast hcast
    omega

/-- Within 40 ms the only speed frame of either schedule is the first. -/
theorem schedules_agree_of_le {T : R} (hT : T ≤ 0.04) (t : R) :
    (t, canIdVehicleSpeed) ∈ liveSchedule vehicle T ↔
      (t, canIdVehicleSpeed) ∈ batchSchedule math T := by
  have honly : ∀ p : R, 0.04 ≤ p → ∀ j : ℕ, (j : R) * p < T → j = 0 := by
    intro p hp j hlt
    by_contra hj
    have h1 : (1 : R) ≤ j := by exact_mod_cast Nat.one_le_iff_ne_zero.mpr hj
    have hle : p ≤ (j : R) * p := le_mul_of_one_le_left (hp.trans' (by norm_num)) h1
    linarith
  rw [mem_liveSchedule_iff h, mem_batchSchedule_iff hsin]
  refine and_congr_right fun hlt => ?_
  refine (exists_kind_iff _ t .vehicleSpeed).trans
    (Iff.trans ?_ (exists_kind_iff _ t .vehicleSpeed).symm)
  rw [EcuMessage.livePeriod_vehicleSpeed, EcuMessage.batchPeriod_vehicleSpeed]
  constructor
  · rintro ⟨j, rfl⟩
    obtain rfl := honly 0.04 le_rfl j hlt
    exact ⟨0, by rw [Nat.cast_zero, zero_mul, zero_mul]⟩
  · rintro ⟨j, rfl⟩
    obtain rfl := honly 0.05 (by norm_num) j hlt
    exact ⟨0, by rw [Nat.cast_zero, zero_mul, zero_mul]⟩

/-- The schedules are equal up to 40 ms and different from then on. -/
theorem liveSchedule_eq_iff (T : R) : liveSchedule vehicle T = batchSchedule math T ↔ T ≤ 0.04 := by
  constructor
  · intro heq
    by_contra hT
    obtain ⟨hlive, hbatch⟩ := live_speed_not_in_batch hsin h (not_le.mp hT)
    exact hbatch (heq ▸ hlive)
  · intro hT
    ext ⟨t, id⟩
    -- an id of either schedule is the id of a kind
    by_cases hid : ∃ kind : EcuMessage, id = kind.canId
    · obtain ⟨kind, rfl⟩ := hid
      by_cases hkind : kind = .vehicleSpeed
      · subst hkind
        exact schedules_agree_of_le hsin h hT t
      · exact schedules_agree_of_ne hsin h hkind T t
    · rw [mem_liveSchedule_iff h, mem_batchSchedule_iff hsin]
      refine iff_of_false ?_ ?_
      · rintro ⟨_, kind, j, he⟩
        exact hid ⟨kind, (Prod.ext_iff.mp he).2⟩
      · rintro ⟨_, kind, j, he⟩
        exact hid ⟨kind, (Prod.ext_iff.mp he).2⟩

end Agreement

/-- **When the live and the batch schedule agree.** Whatever states of a live run the
iterations find: the schedules are equal exactly when the horizon is at most 40 ms,
and only the speed frames ever differ. -/
theorem schedules_agree_iff {math : MathModule R} (hsin : math.SinBounded)
    {vehicle : Ecu → ℕ → VehicleState R}
    (hvehicle : ∀ ecu i, ∃ k, vehicle ecu i = (PhysicsLoop.after math k).vehicle) (T : R) :
    (liveSchedule vehicle T = batchSchedule math T ↔ T ≤ 0.04) ∧
      ∀ kind : EcuMessage, kind ≠ .vehicleSpeed → ∀ t,
        ((t, kind.canId) ∈ liveSchedule vehicle T ↔ (t, kind.canId) ∈ batchSchedule math T) := by
  have h : ∀ ecu i, (vehicle ecu i).Encodable := by
    intro ecu i
    obtain ⟨k, hk⟩ := hvehicle ecu i
    rw [hk]
    exact (PhysicsLoop.after_inBounds hsin k).encodable
  exact ⟨liveSchedule_eq_iff hsin h T, fun _ hkind t => schedules_agree_of_ne hsin h hkind T t⟩

/-- With the real sine, on a car that has just been started. -/
theorem schedules_agree_iff_real :
    (liveSchedule (fun _ _ => VehicleState.new) 1 = batchSchedule MathModule.real 1 ↔
        (1 : ℝ) ≤ 0.04) ∧
      ∀ kind : EcuMessage, kind ≠ .vehicleSpeed → ∀ t,
        ((t, kind.canId) ∈ liveSchedule (fun _ _ => VehicleState.new) 1 ↔
          (t, kind.canId) ∈ batchSchedule MathModule.real 1) :=
  schedules_agree_iff MathModule.real_sinBounded (fun _ _ => ⟨0, rfl⟩) 1

/-- The second speed frame goes out at 40 ms, where a batch has it at 50. -/
theorem live_speed_is_early :
    ((0.04 : ℝ), canIdVehicleSpeed) ∈ liveSchedule (fun _ _ => VehicleState.new) 0.05 ∧
      ((0.04 : ℝ), canIdVehicleSpeed) ∉ batchSchedule MathModule.real 0.05 ∧
      liveSchedule (fun _ _ => VehicleState.new) 0.05 ≠ batchSchedule MathModule.real 0.05 := by
  obtain ⟨hlive, hbatch⟩ := live_speed_not_in_batch MathModule.real_sinBounded
    (fun _ _ => VehicleState.new_inBounds.encodable) (T := 0.05) (by norm_num)
  exact ⟨hlive, hbatch, fun heq => hbatch (heq ▸ hlive)⟩

end CanSentinel
