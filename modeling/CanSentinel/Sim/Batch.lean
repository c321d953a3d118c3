import CanSentinel.Sim.EcuLoops

/-!
# The batch generator (`VehicleECUSimulator.generate_batch`)

`generate_batch` produces the frames a model is trained on: one loop over steps
of 5 ms that recomputes the driving cycle at every step and emits each message
every so many steps.

- `BatchState.physics`: the physics of a step, written a second time.
- `batchKinds step`: the messages of a step, in the order of the source.
- `generateBatch math durationSec`: the whole generator, which raises as soon as
  one `struct.pack` does.
- `generateSteps_of_fit`: if no argument is out of range, the list it returns is
  what the steps emit, one after the other.
-/

namespace CanSentinel

variable {R : Type} [PyFloat R]

/-! ## Physics -/

/-- The local variables of `generate_batch`. -/
structure BatchState (R : Type) where
  rpm : R
  speed : R
  gear : ℤ
  temp : R
  throttle : R
  brake : R
deriving DecidableEq

namespace BatchState

def start : BatchState R where
  rpm := 800.0
  speed := 0.0
  gear := 0
  temp := 45.0
  throttle := 0.0
  brake := 0.0

variable (math : MathModule R)

/-- The driving cycle at its time `cycleT`. -/
def drive (cycleT : R) (self : BatchState R) : BatchState R :=
  if cycleT < 15.0 then
    let p := cycleT / 15.0
    let throttle := 40.0 + 20.0 * math.sin (p * math.pi)
    let speed := p * 75.0
    { self with
      throttle := throttle
      brake := 0.0
      speed := speed
      gear := if speed < 15.0 then 1 else if speed < 35.0 then 2 else if speed < 55.0 then 3 else 4
      rpm := 1200.0 + throttle * 45.0 + speed * 20.0 }
  else if cycleT < 35.0 then
    { self with
      throttle := 20.0 + 5.0 * math.sin cycleT
      brake := 0.0
      speed := 75.0 + 3.0 * math.sin (cycleT * 0.5)
      gear := 4
      rpm := 2100.0 + 100.0 * math.sin cycleT }
  else if cycleT < 48.0 then
    let bt := (cycleT - 35.0) / 13.0
    let speed := max 0.0 (75.0 * (1.0 - bt))
    { self with
      throttle := 0.0
      brake := 35.0 + 15.0 * math.sin (bt * math.pi)
      speed := speed
      rpm := max 800.0 (2100.0 * (1.0 - bt))
      gear := if speed < 10.0 then 1 else if speed < 30.0 then 2 else 3 }
  else
    { self with
      throttle := 0.0
      brake := 50.0
      speed := 0.0
      gear := 0
      rpm := 790.0 + 15.0 * math.sin cycleT }

def warmUp (self : BatchState R) : BatchState R :=
  if self.temp < 90.0 then { self with temp := self.temp + 0.005 } else self

/-- The physics of the step at time `t`. -/
def physics (t : R) (self : BatchState R) : BatchState R :=
  (self.drive math (pyMod t 60.0)).warmUp

/-- The arguments a step packs; `abs_act` compares the numbers before truncation. -/
def args (self : BatchState R) : (kind : EcuMessage) → StructArgs kind.fmt
  | .brake =>
    let absAct := if 70.0 < self.brake ∧ 40.0 < self.speed then 1 else 0
    (pyInt self.brake, absAct, pyInt self.speed, pyInt self.speed, max 0 (pyInt self.speed - 1),
      max 0 (pyInt self.speed - 1), ())
  | .engineRpm => (pyInt self.rpm, pyInt self.throttle, 0x01, ())
  | .vehicleSpeed => (pyInt (self.speed * 100.0), 0x00, 0x4A, ())
  | .transmission =>
    (self.gear, pyInt (self.throttle * 3.5), if 0 < self.gear then 1 else 0, 0x00, ())
  | .engineTemp => (pyInt self.temp + 40, 0x42, 0x00, ())
  | .bodyDoors => (0xFF, 0x00, 0x01, 0x00, ())
  | .lighting => (0x01, 0x00, ())
  | .bodyClimate => (22, 21, 0x03, 0x01, ())

end BatchState

/-! ## Steps -/

/-- The number of steps from one message of a kind to the next. -/
def EcuMessage.period : EcuMessage → ℕ
  | brake => 2
  | engineRpm => 4
  | vehicleSpeed => 10
  | transmission => 10
  | engineTemp => 20
  | bodyDoors => 20
  | lighting => 20
  | bodyClimate => 40

/-- The order in which a step emits its messages. -/
def batchOrder : List EcuMessage :=
  [.brake, .engineRpm, .vehicleSpeed, .transmission, .engineTemp, .bodyDoors, .lighting,
    .bodyClimate]

/-- The messages of a step: `if step % period == 0`, kind by kind. -/
def batchKinds (step : ℕ) : List EcuMessage :=
  batchOrder.filter fun kind => step % kind.period = 0

/-- `t = step * dt`. -/
def stepTime (step : ℕ) : R := (step : R) * 0.005

/-- `current_time = sim_time + t`. -/
def batchTime (step : ℕ) : R := 1000000.0 + stepTime step

/-- The body of the loop of `generate_batch`. -/
def batchStep (math : MathModule R) (s : BatchState R × List (CANFrame R)) (step : ℕ) :
    Except PyError (BatchState R × List (CANFrame R)) := do
  let state := s.1.physics math (stepTime step)
  let sent ← (batchKinds step).mapM fun kind => kind.packFrame (state.args kind) (batchTime step)
  return (state, s.2 ++ sent)

/-- The first `n` steps of `generate_batch`. -/
def generateSteps (math : MathModule R) (n : ℕ) :
    Except PyError (BatchState R × List (CANFrame R)) :=
  (List.range n).foldlM (batchStep math) (.start, [])

/-- `total_steps`, of which `range` makes no steps when it is negative. -/
def totalSteps (durationSec : R) : ℕ := (pyInt (durationSec / 0.005)).toNat

/-- `VehicleECUSimulator.generate_batch`. -/
def generateBatch (math : MathModule R) (durationSec : R) : Except PyError (List (CANFrame R)) := do
  let (_, frames) ← generateSteps math (totalSteps durationSec)
  return frames

/-- A duration of `n` steps takes `n` steps. -/
theorem totalSteps_natCast (n : ℕ) : totalSteps ((n : R) * 0.005) = n := by
  have hdiv : (n : R) * 0.005 / 0.005 = (n : R) := by
    rw [mul_div_cancel_right₀]
    norm_num
  rw [totalSteps, hdiv, pyInt_natCast, Int.toNat_natCast]

/-! ## What the steps emit -/

namespace BatchState

variable (math : MathModule R)

/-- The variables after `n` steps. -/
def after : ℕ → BatchState R
  | 0 => start
  | n + 1 => (after n).physics math (stepTime n)

/-- Warming up moves the temperature only. -/
theorem warmUp_eq (self : BatchState R) : self.warmUp = { self with temp := self.warmUp.temp } := by
  unfold warmUp
  split <;> rfl

/-- **Invariants of the batch physics**: what every step preserves, whatever its
time. -/
theorem after_inv {I : BatchState R → Prop} (h : I start)
    (hstep : ∀ t self, I self → I (self.physics math t)) (n : ℕ) : I (after math n) := by
  induction n with
  | zero => exact h
  | succ n ih => exact hstep _ _ ih

end BatchState

/-- The frame a step emits for a kind. -/
def batchFrame (math : MathModule R) (step : ℕ) (kind : EcuMessage) : CANFrame R :=
  kind.frame (batchTime step)
    (packedBytes .big kind.fmt ((BatchState.after math (step + 1)).args kind))

/-- The frames of a step. -/
def stepFrames (math : MathModule R) (step : ℕ) : List (CANFrame R) :=
  (batchKinds step).map (batchFrame math step)

/-- The frames of the first `n` steps. -/
def batchFrames (math : MathModule R) (n : ℕ) : List (CANFrame R) :=
  (List.range n).flatMap (stepFrames math)

theorem batchFrames_succ (math : MathModule R) (n : ℕ) :
    batchFrames math (n + 1) = batchFrames math n ++ stepFrames math n := by
  rw [batchFrames, List.range_succ, List.flatMap_append, List.flatMap_singleton]
  rfl

omit [PyFloat R] in
theorem mapM_ok {ι α : Type} (f : ι → α) (xs : List ι) :
    (xs.mapM fun x => (.ok (f x) : Except PyError α)) = .ok (xs.map f) := by
  induction xs with
  | nil => rfl
  | cons x xs ih =>
    rw [List.mapM_cons, ih]
    rfl

/-- **The generator, when every argument fits**: by induction on the steps, the
variables are those of the physics and the list is what the steps emit. -/
theorem generateSteps_of_fit {math : MathModule R}
    (h : ∀ n kind, ArgsFit kind.fmt ((BatchState.after math (n + 1)).args kind)) (n : ℕ) :
    generateSteps math n = .ok (BatchState.after math n, batchFrames math n) := by
  induction n with
  | zero => rfl
  | succ n ih =>
    have hstep : batchStep math (BatchState.after math n, batchFrames math n) n =
        .ok (BatchState.after math (n + 1), batchFrames math n ++ stepFrames math n) := by
      have hpack : ∀ kind : EcuMessage,
          kind.packFrame ((BatchState.after math (n + 1)).args kind) (batchTime n) =
            .ok (batchFrame math n kind) := fun kind =>
        EcuMessage.packFrame_of_fit (h n kind) (batchTime n : R)
      rw [batchStep]
      show ((batchKinds n).mapM fun kind =>
        kind.packFrame ((BatchState.after math (n + 1)).args kind) (batchTime n : R)) >>= _ = _
      simp only [hpack]
      rw [mapM_ok]
      rfl
    rw [generateSteps, List.range_succ, List.foldlM_append]
    show generateSteps math n >>= _ = _
    rw [ih, batchFrames_succ]
    show batchStep math _ n >>= pure = _
    rw [hstep]
    rfl

end CanSentinel
