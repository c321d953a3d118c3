import CanSentinel.Bus.Listener
import CanSentinel.Lib.Notify
import CanSentinel.Lib.Spacing

/-!
# The attack suite (`attacks/attack_suite.py`)

`CANAttackSuite` crafts frames and sends them on the virtual bus at a rate, while other
threads use the bus. Its three injections are one loop over different frames.

- `craftFloodFrame`, `craftSpoofBrakeFrame`, `craftSpoofEngineKillFrame`,
  `craftFuzzingFrame`: the frames.
- `InjectionLoop`: what the injections differ in; `Injection.step`: the test or the delivery
  of a round, or an operation of another thread in between.
- `Injecting`: the invariant of a run; `Heard` is that of a subscriber.
- `injection_delivers`: what is sent, who gets it, and how fast.
-/

namespace CanSentinel

variable {R : Type} [PyFloat R]

/-! ## Frames -/

/-- What `craft_fuzzing_frame` draws. -/
structure FuzzDraw where
  randId : ℤ
  data : Bytes
  randId_mem : 0x001 ≤ randId ∧ randId ≤ 0x7FE
  length_mem : 1 ≤ data.length ∧ data.length ≤ 8

namespace CANAttackSuite

/-- `CANAttackSuite.craft_flood_frame`. -/
def craftFloodFrame (targetId : ℤ) (now : R) : CANFrame R :=
  CANFrame.new now targetId [0, 0, 0, 0, 0, 0, 0, 0] (some 8) false false false (some now)

/-- `CANAttackSuite.craft_spoof_brake_frame`. -/
def craftSpoofBrakeFrame (brakePct : ℤ) (absActive : Bool) (now : R) :
    Except PyError (CANFrame R) := do
  let payload ← structPack .big [.B, .B, .B, .B, .B, .B]
    (brakePct, if absActive then 1 else 0, 0, 0, 0, 0, ())
  return CANFrame.new now canIdBrakeOverride payload (some 6) false false false (some now)

/-- `CANAttackSuite.craft_spoof_engine_kill_frame`. -/
def craftSpoofEngineKillFrame (now : R) : Except PyError (CANFrame R) := do
  let payload ← structPack .big [.H, .B, .B] (0, 0, 0, ())
  return CANFrame.new now canIdEngineRpm payload (some 4) false false false (some now)

/-- `CANAttackSuite.craft_fuzzing_frame`. -/
def craftFuzzingFrame (draw : FuzzDraw) (now : R) : CANFrame R :=
  CANFrame.new now draw.randId draw.data (some draw.data.length) false false false (some now)

/-- `interval = 1.0 / rate_hz if rate_hz > 0 else …`. -/
def injectInterval (rateHz fallback : R) : R := if 0 < rateHz then 1.0 / rateHz else fallback

theorem injectInterval_pos (rateHz : R) {fallback : R} (h : 0 < fallback) :
    0 < injectInterval rateHz fallback := by
  rw [injectInterval]
  by_cases hrate : 0 < rateHz
  · rw [if_pos hrate]
    positivity
  · rw [if_neg hrate]
    exact h

end CANAttackSuite

open CANAttackSuite

/-! ## The loop -/

/-- What the injections differ in: the frame of a round, made from random draws and the
time, and the sleep after it. -/
structure InjectionLoop (δ R : Type) [PyFloat R] where
  craft : δ → R → Except PyError (CANFrame R)
  interval : R
  stamped : ∀ draw now frame, craft draw now = .ok frame → frame.timestamp = now
  interval_pos : 0 < interval

omit [PyFloat R] in
theorem craftFloodFrame_stamped (targetId : ℤ) (_draw : Unit) (now : R) (frame : CANFrame R)
    (h : (.ok (craftFloodFrame targetId now) : Except PyError (CANFrame R)) = .ok frame) :
    frame.timestamp = now := by
  cases h
  rfl

omit [PyFloat R] in
theorem craftSpoofBrakeFrame_stamped (brakePct : ℤ) (absActive : Bool) (_draw : Unit) (now : R)
    (frame : CANFrame R) (h : craftSpoofBrakeFrame brakePct absActive now = .ok frame) :
    frame.timestamp = now := by
  obtain ⟨payload, _, h⟩ := bind_eq_ok_iff.mp h
  cases h
  rfl

omit [PyFloat R] in
theorem craftFuzzingFrame_stamped (draw : FuzzDraw) (now : R) (frame : CANFrame R)
    (h : (.ok (craftFuzzingFrame draw now) : Except PyError (CANFrame R)) = .ok frame) :
    frame.timestamp = now := by
  cases h
  rfl

/-- `CANAttackSuite.inject_dos_flood`. -/
def injectDosFlood (rateHz : R) (targetId : ℤ) : InjectionLoop Unit R where
  craft _ now := .ok (craftFloodFrame targetId now)
  interval := injectInterval rateHz 0.0005
  stamped := craftFloodFrame_stamped targetId
  interval_pos := injectInterval_pos rateHz (by norm_num)

/-- `CANAttackSuite.inject_spoof_brake`. -/
def injectSpoofBrake (rateHz : R) : InjectionLoop Unit R where
  craft _ now := craftSpoofBrakeFrame 100 true now
  interval := injectInterval rateHz 0.01
  stamped := craftSpoofBrakeFrame_stamped 100 true
  interval_pos := injectInterval_pos rateHz (by norm_num)

/-- `CANAttackSuite.inject_fuzzing`. -/
def injectFuzzing (rateHz : R) : InjectionLoop FuzzDraw R where
  craft draw now := .ok (craftFuzzingFrame draw now)
  interval := injectInterval rateHz 0.002
  stamped := craftFuzzingFrame_stamped
  interval_pos := injectInterval_pos rateHz (by norm_num)

variable {κ W δ : Type} [DecidableEq κ]

/-- A call of an injection in progress, with the bus and the world of its callback. -/
structure Injection (κ R W : Type) where
  bus : VirtualCANBus κ R
  world : W
  remaining : ℕ
  /-- the frame for which `bus.send` has found the bus open and that it is still to deliver -/
  sending : Option (CANFrame R)
  injected : List (CANFrame R)
  /-- the end of the last sleep -/
  wake : Option R
  raised : Option PyError

/-- What happens next. -/
inductive InjectEvent (κ δ R : Type) where
  /-- a round begins at the time `now`: the frame is crafted, and `bus.send` tests whether the
  bus is open -/
  | round (draw : δ) (now : R)
  /-- `bus.send` delivers, the callback is called, and the sleep begins at the time `now` -/
  | deliver (now : R)
  /-- an operation of another thread -/
  | other (op : VirtualCANBus.BusOp κ R)
  /-- the delivery of a `send` of another thread, whatever has happened since its test -/
  | delivery (frame : CANFrame R)

namespace Injection

/-- The call begins; `range` makes no rounds of a negative count. -/
def start (bus : VirtualCANBus κ R) (world : W) (count : ℤ) : Injection κ R W :=
  ⟨bus, world, count.toNat, none, [], none, none⟩

/-- The loop is at the beginning of a round: it has not raised, has rounds left, and has slept.
A sleep is not shorter than it should be. -/
def Awake (self : Injection κ R W) (now : R) : Prop :=
  self.raised = none ∧ self.sending = none ∧ 0 < self.remaining ∧ ∀ t ∈ self.wake, t ≤ now

instance (self : Injection κ R W) (now : R) : Decidable (self.Awake now) :=
  inferInstanceAs (Decidable (_ ∧ (self.sending = none) ∧ _ ∧ _))

/-- The rest of a round after the delivery. -/
def append (interval : R) (callback : Option (Callback PyError W (CANFrame R)))
    (self : Injection κ R W) (frame : CANFrame R) (now : R) : Injection κ R W :=
  let self := { self with
    remaining := self.remaining - 1
    sending := none
    injected := self.injected ++ [frame]
    wake := some (now + interval) }
  match callback with
  | none => self
  | some cb =>
    match cb frame self.world with
    | (.ok (), world) => { self with world := world }
    | (.error e, world) => { self with world := world, raised := some e }

/-- A step. The clock does not go back. -/
def step (loop : InjectionLoop δ R) (callback : Option (Callback PyError W (CANFrame R)))
    (self : Injection κ R W) : InjectEvent κ δ R → Option (Injection κ R W)
  | .other op => (self.bus.step op).map fun bus => { self with bus := bus }
  | .delivery frame => some { self with bus := self.bus.deliver frame }
  | .round draw now =>
    if self.Awake now then
      match loop.craft draw now with
      | .error e => some { self with raised := some e }
      | .ok frame =>
        match self.bus.openTest with
        | .error e => some { self with raised := some e }
        | .ok () => some { self with sending := some frame }
    else none
  | .deliver now =>
    match self.sending with
    | none => none
    | some frame =>
      if frame.timestamp ≤ now then
        some (append loop.interval callback { self with bus := self.bus.deliver frame } frame now)
      else none

variable {loop : InjectionLoop δ R} {callback : Option (Callback PyError W (CANFrame R))}

/-- What a step can do. -/
inductive Step (loop : InjectionLoop δ R) (callback : Option (Callback PyError W (CANFrame R)))
    (s : Injection κ R W) : InjectEvent κ δ R → Injection κ R W → Prop
  | other (op : VirtualCANBus.BusOp κ R) (bus : VirtualCANBus κ R) : s.bus.step op = some bus →
      Step loop callback s (.other op) { s with bus := bus }
  | delivery (frame : CANFrame R) :
      Step loop callback s (.delivery frame) { s with bus := s.bus.deliver frame }
  | uncrafted (draw : δ) (now : R) (e : PyError) : s.Awake now → loop.craft draw now = .error e →
      Step loop callback s (.round draw now) { s with raised := some e }
  | closed (draw : δ) (now : R) (frame : CANFrame R) : s.Awake now →
      loop.craft draw now = .ok frame → s.bus.isOpen = false →
      Step loop callback s (.round draw now) { s with
        raised := some (.runtimeError "Cannot send frame on closed Virtual CAN Bus.") }
  | passed (draw : δ) (now : R) (frame : CANFrame R) : s.Awake now →
      loop.craft draw now = .ok frame → s.bus.isOpen = true →
      Step loop callback s (.round draw now) { s with sending := some frame }
  | sent (now : R) (frame : CANFrame R) (s' : Injection κ R W) : s.sending = some frame →
      frame.timestamp ≤ now → s'.bus = s.bus.deliver frame → s'.sending = none →
      s'.injected = s.injected ++ [frame] → s'.remaining = s.remaining - 1 →
      s'.wake = some (now + loop.interval) → Step loop callback s (.deliver now) s'

omit [DecidableEq κ] in
theorem append_eq (interval : R) (callback : Option (Callback PyError W (CANFrame R)))
    (self : Injection κ R W) (frame : CANFrame R) (now : R) :
    (append interval callback self frame now).bus = self.bus ∧
      (append interval callback self frame now).sending = none ∧
      (append interval callback self frame now).injected = self.injected ++ [frame] ∧
      (append interval callback self frame now).remaining = self.remaining - 1 ∧
      (append interval callback self frame now).wake = some (now + interval) := by
  unfold append
  cases callback with
  | none => exact ⟨rfl, rfl, rfl, rfl, rfl⟩
  | some cb =>
    dsimp only
    generalize cb frame self.world = called
    obtain ⟨out, world⟩ := called
    cases out with
    | ok _ => exact ⟨rfl, rfl, rfl, rfl, rfl⟩
    | error e => exact ⟨rfl, rfl, rfl, rfl, rfl⟩

/-- **Inversion of a step.** -/
theorem step_of_eq_some {s s' : Injection κ R W} {e : InjectEvent κ δ R}
    (h : step loop callback s e = some s') : Step loop callback s e s' := by
  cases e with
  | other op =>
    rw [step, Option.map_eq_some_iff] at h
    obtain ⟨bus, hbus, rfl⟩ := h
    exact .other op bus hbus
  | delivery frame =>
    cases h
    exact .delivery frame
  | round draw now =>
    rw [step] at h
    by_cases hawake : s.Awake now
    · rw [if_pos hawake] at h
      cases hcraft : loop.craft draw now with
      | error e =>
        rw [hcraft] at h
        cases h
        exact .uncrafted draw now e hawake hcraft
      | ok frame =>
        rw [hcraft] at h
        dsimp only at h
        cases hopen : s.bus.isOpen with
        | false =>
          rw [VirtualCANBus.openTest, hopen] at h
          cases h
          exact .closed draw now frame hawake hcraft hopen
        | true =>
          rw [VirtualCANBus.openTest, if_pos hopen] at h
          cases h
          exact .passed draw now frame hawake hcraft hopen
    · rw [if_neg hawake] at h
      cases h
  | deliver now =>
    rw [step] at h
    cases hsending : s.sending with
    | none =>
      rw [hsending] at h
      cases h
    | some frame =>
      rw [hsending] at h
      dsimp only at h
      by_cases hclock : frame.timestamp ≤ now
      · rw [if_pos hclock] at h
        cases h
        obtain ⟨hbus, hnone, hinjected, hremaining, hwake⟩ :=
          append_eq loop.interval callback { s with bus := s.bus.deliver frame } frame now
        exact .sent now frame _ hsending hclock hbus hnone hinjected hremaining hwake
      · rw [if_neg hclock] at h
        cases h

/-! ## The loop -/

/-- The frames of the rounds. -/
def crafted (loop : InjectionLoop δ R) (es : List (InjectEvent κ δ R)) : List (CANFrame R) :=
  es.filterMap fun
    | .round draw now => (loop.craft draw now).toOption
    | _ => none

/-- After the events `es` of a call with `count` rounds. -/
structure Injecting (loop : InjectionLoop δ R) (count : ℕ) (es : List (InjectEvent κ δ R))
    (s : Injection κ R W) : Prop where
  rounds : s.injected.length + s.remaining = count
  prefixed : s.injected ++ s.sending.toList <+: crafted loop es
  complete : s.raised = none → s.injected ++ s.sending.toList = crafted loop es
  /-- in a `send` -/
  running : ∀ frame, s.sending = some frame →
    s.raised = none ∧ 0 < s.remaining ∧ ∀ t ∈ s.wake, t ≤ frame.timestamp
  spaced : Spaced loop.interval (s.injected.map CANFrame.timestamp)
  asleep : ∀ last ∈ (s.injected.map CANFrame.timestamp).getLast?,
    ∃ t ∈ s.wake, last + loop.interval ≤ t

omit [DecidableEq κ] in
theorem crafted_concat (loop : InjectionLoop δ R) (es : List (InjectEvent κ δ R))
    (e : InjectEvent κ δ R) : crafted loop (es ++ [e]) = crafted loop es ++ crafted loop [e] :=
  List.filterMap_append

variable {count : ℕ} {es : List (InjectEvent κ δ R)} {s s' : Injection κ R W}

omit [DecidableEq κ] in
/-- An event that crafts no frame and leaves the loop as it is. -/
theorem Injecting.idle (h : Injecting loop count es s) {e : InjectEvent κ δ R}
    (he : crafted loop [e] = []) (bus : VirtualCANBus κ R) :
    Injecting loop count (es ++ [e]) { s with bus := bus } := by
  have hsame : crafted loop (es ++ [e]) = crafted loop es := by
    rw [crafted_concat, he, List.append_nil]
  refine ⟨h.rounds, ?_, ?_, h.running, h.spaced, h.asleep⟩
  · rw [hsame]
    exact h.prefixed
  · rw [hsame]
    exact h.complete

omit [DecidableEq κ] in
/-- A round that raises. -/
theorem Injecting.raise (h : Injecting loop count es s) (e : InjectEvent κ δ R)
    (hnone : s.sending = none) (err : PyError) :
    Injecting loop count (es ++ [e]) { s with raised := some err } := by
  refine ⟨h.rounds, ?_, nofun, ?_, h.spaced, h.asleep⟩
  · rw [crafted_concat]
    exact h.prefixed.trans (List.prefix_append _ _)
  · intro frame hframe
    rw [hnone] at hframe
    cases hframe

/-- **The step.** -/
theorem Injecting.step (h : Injecting loop count es s) {e : InjectEvent κ δ R}
    (hstep : Step loop callback s e s') : Injecting loop count (es ++ [e]) s' := by
  cases hstep with
  | other op bus _ => exact h.idle rfl bus
  | delivery frame => exact h.idle rfl _
  | uncrafted draw now e hawake _ => exact h.raise _ hawake.2.1 e
  | closed draw now frame hawake _ _ => exact h.raise _ hawake.2.1 _
  | passed draw now frame hawake hcraft _ =>
    obtain ⟨hnone, hidle, hpos, hslept⟩ := hawake
    have hstamp := loop.stamped draw now frame hcraft
    have hall : s.injected ++ [frame] = crafted loop (es ++ [.round draw now]) := by
      have hone : crafted loop [(.round draw now : InjectEvent κ δ R)] = [frame] := by
        simp [crafted, hcraft, Except.toOption]
      have hbefore := h.complete hnone
      rw [hidle] at hbefore
      rw [crafted_concat, ← hbefore, hone]
      exact congrArg (· ++ [frame]) (List.append_nil _).symm
    refine ⟨h.rounds, ?_, fun _ => hall, ?_, h.spaced, h.asleep⟩
    · rw [← hall]
      exact List.prefix_refl _
    · intro frame' hframe'
      obtain rfl := Option.some.inj hframe'
      exact ⟨hnone, hpos, hstamp ▸ hslept⟩
  | sent now frame s' hsending hclock hbus hidle hinjected hremaining hwake =>
    obtain ⟨hnone, hpos, hslept⟩ := h.running frame hsending
    have hsame : crafted loop (es ++ [.deliver now]) = crafted loop es := by
      rw [crafted_concat]
      exact List.append_nil _
    have hall : s'.injected ++ s'.sending.toList = s.injected ++ s.sending.toList := by
      rw [hinjected, hidle, hsending]
      exact List.append_nil _
    have hlast : s'.injected.map CANFrame.timestamp =
        s.injected.map CANFrame.timestamp ++ [frame.timestamp] := by
      rw [hinjected, List.map_append, List.map_singleton]
    refine ⟨?_, ?_, ?_, ?_, ?_, ?_⟩
    · have hrounds := h.rounds
      rw [hinjected, hremaining, List.length_append, List.length_singleton]
      omega
    · rw [hsame, hall]
      exact h.prefixed
    · intro _
      rw [hsame, hall]
      exact h.complete hnone
    · intro frame' hframe'
      rw [hidle] at hframe'
      cases hframe'
    · -- the round began after the sleep that followed the frame before
      rw [hlast]
      refine h.spaced.concat loop.interval_pos.le ?_
      intro last hmem
      obtain ⟨t, ht, hle⟩ := h.asleep last hmem
      exact hle.trans (hslept t ht)
    · intro last hmem
      rw [hlast, List.getLast?_concat] at hmem
      obtain rfl := Option.some.inj hmem
      rw [hwake]
      exact ⟨_, rfl, add_le_add_left hclock _⟩

theorem injecting_run {bus₀ : VirtualCANBus κ R} (world : W) (count : ℤ)
    (hrun : Machine.run (step loop callback) (start bus₀ world count) es = some s) :
    Injecting loop count.toNat es s := by
  have hstart : Injecting loop count.toNat [] (start bus₀ world count) :=
    ⟨Nat.zero_add _, List.prefix_refl _, fun _ => rfl, nofun, .nil, nofun⟩
  refine Machine.run_inv hstart ?_ hrun
  intro pre s e s' h hstep
  exact h.step (step_of_eq_some hstep)

/-! ## A subscriber -/

/-- What the queue `k` has got of the injected frames: all of them, unless the bus was closed
within a `send`, which was then the last one. -/
structure Heard (k : κ) (es : List (InjectEvent κ δ R)) (s : Injection κ R W) : Prop where
  passed : ∀ frame, s.sending = some frame →
    s.bus.isOpen = true ∨ .other (.call .close) ∈ es
  heard : VirtualCANBus.Hears k s.injected s.bus ∨
    .other (.call .close) ∈ es ∧ s.bus.isOpen = false ∧ s.sending = none ∧
      VirtualCANBus.Hears k s.injected.dropLast s.bus

/-- **The step.** -/
theorem Heard.step {k : κ} (h : Heard k es s) {e : InjectEvent κ δ R}
    (hstep : Step loop callback s e s') (hremove : e ≠ .other (.call (.remove k))) :
    Heard k (es ++ [e]) s' := by
  have hold : .other (.call .close) ∈ es → .other (.call .close) ∈ es ++ [e] :=
    List.mem_append_left _
  cases hstep with
  | other op bus hop =>
    have hkept {frames : List (CANFrame R)} (hears : VirtualCANBus.Hears k frames s.bus) :
        VirtualCANBus.Hears k frames bus := hears.other hop fun hop => hremove (by rw [hop])
    constructor
    · intro frame hframe
      rcases h.passed frame hframe with hopen | hclose
      · by_cases hop' : op = .call .close
        · subst hop'
          exact .inr (List.mem_append_right _ (List.mem_singleton_self _))
        · exact .inl ((VirtualCANBus.isOpen_step hop).1 hopen hop')
      · exact .inr (hold hclose)
    · refine h.heard.imp hkept ?_
      rintro ⟨hclose, hclosed, hidle, hears⟩
      exact ⟨hold hclose, (VirtualCANBus.isOpen_step hop).2 hclosed, hidle, hkept hears⟩
  | delivery frame =>
    refine ⟨fun f hf => (h.passed f hf).imp_right hold, ?_⟩
    refine h.heard.imp (fun hears => hears.delivery frame) ?_
    rintro ⟨hclose, hclosed, hidle, hears⟩
    exact ⟨hold hclose, hclosed, hidle, hears.delivery frame⟩
  | uncrafted draw now e _ _ =>
    exact ⟨fun f hf => (h.passed f hf).imp_right hold, h.heard.imp_right (And.imp_left hold)⟩
  | closed draw now frame _ _ _ =>
    exact ⟨fun f hf => (h.passed f hf).imp_right hold, h.heard.imp_right (And.imp_left hold)⟩
  | passed draw now frame _ _ hopen =>
    refine ⟨fun _ _ => .inl hopen, .inl (h.heard.resolve_right ?_)⟩
    rintro ⟨_, hclosed, _⟩
    rw [hopen] at hclosed
    cases hclosed
  | sent now frame s' hsending _ hbus hidle hinjected _ _ =>
    have hears : VirtualCANBus.Hears k s.injected s.bus := by
      refine h.heard.resolve_right ?_
      rintro ⟨_, _, hnone, _⟩
      rw [hsending] at hnone
      cases hnone
    refine ⟨?_, ?_⟩
    · intro f hf
      rw [hidle] at hf
      cases hf
    rw [hbus, hinjected, List.dropLast_concat]
    cases hopen : s.bus.isOpen with
    | true => exact .inl (hears.deliver hopen frame)
    | false =>
      -- the bus was closed after the test, and the frame may be lost
      have hclose := (h.passed frame hsending).resolve_left
        (by rw [hopen]; exact Bool.false_ne_true)
      exact .inr ⟨hold hclose, hopen, hidle, hears.delivery frame⟩

theorem heard_run {k : κ} {bus₀ : VirtualCANBus κ R} (hwf : bus₀.WellFormed)
    {q₀ : BoundedQueue (CANFrame R)} (hk : k ∈ bus₀.subscribers) (hq : bus₀.queues k = some q₀)
    (hsize : q₀.maxsize ≤ 0) (world : W) (count : ℤ)
    (hremove : (.other (.call (.remove k)) : InjectEvent κ δ R) ∉ es)
    (hrun : Machine.run (step loop callback) (start bus₀ world count) es = some s) :
    Heard k es s := by
  let I (es : List (InjectEvent κ δ R)) (s : Injection κ R W) : Prop :=
    .other (.call (.remove k)) ∉ es → Heard k es s
  have hstart : I [] (start bus₀ world count) :=
    fun _ => ⟨nofun, .inl (VirtualCANBus.hears_nil hwf hk hq hsize)⟩
  have hinv := Machine.run_inv hstart ?_ hrun
  · exact hinv hremove
  · intro pre s e s' h hstep hnot
    rw [List.mem_append, not_or, List.mem_singleton] at hnot
    exact (h hnot.1).step (step_of_eq_some hstep) (Ne.symm hnot.2)

/-! ## An injection -/

/-- **An injection on a bus that others use.** In every interleaving of its tests and its
deliveries with the operations of other threads, where a sleep is not shorter than it should
be and the clock does not go back:

- at most `count` frames are injected, one after the other those that the rounds craft, and,
  but for one that is in `bus.send`, all of them as long as the call has not raised;
- an unbounded queue that was registered before, and that nobody removes, gets all injected
  frames in order, whatever is done to the other queues, as long as the bus is not closed; if
  it is, then all but at most the last one;
- their times are `interval` apart, so a window of length `w` holds at most
  `w / interval + 1`. -/
theorem injection_delivers {ops₀ : List (VirtualCANBus.BusOp κ R)} {bus₀ : VirtualCANBus κ R}
    (hbus : Machine.run VirtualCANBus.step .new ops₀ = some bus₀) (world : W) (count : ℤ)
    (hrun : Machine.run (step loop callback) (start bus₀ world count) es = some s) :
    s.injected.length + s.remaining = count.toNat ∧
      s.injected ++ s.sending.toList <+: crafted loop es ∧
      (s.raised = none → s.injected ++ s.sending.toList = crafted loop es) ∧
      (∀ k q₀, k ∈ bus₀.subscribers → bus₀.queues k = some q₀ → q₀.maxsize ≤ 0 →
        .other (.call (.remove k)) ∉ es →
        ∃ q, s.bus.queues k = some q ∧ s.injected.dropLast.Sublist (s.bus.taken k ++ q.items) ∧
          (.other (.call .close) ∉ es → s.injected.Sublist (s.bus.taken k ++ q.items))) ∧
      ∀ a w, 0 ≤ w → (((s.injected.map CANFrame.timestamp).countP fun t =>
        a ≤ t ∧ t ≤ a + w : ℕ) : R) ≤ w / loop.interval + 1 := by
  have h := injecting_run world count hrun
  refine ⟨h.rounds, h.prefixed, h.complete, ?_, ?_⟩
  · intro k q₀ hk hq hsize hremove
    have hwf := (VirtualCANBus.delivered_run hbus).wellFormed
    rcases (heard_run hwf hk hq hsize world count hremove hrun).heard with
      hears | ⟨hclose, _, _, hears⟩
    · obtain ⟨q, hq, _, hgot⟩ := hears.got
      exact ⟨q, hq, (List.dropLast_sublist _).trans hgot, fun _ => hgot⟩
    · obtain ⟨q, hq, _, hgot⟩ := hears.got
      exact ⟨q, hq, hgot, fun hnot => absurd hclose hnot⟩
  · intro a w hw
    exact h.spaced.countP_le loop.interval_pos a hw

/-- A flood of three frames at 5 kHz. The bus is closed within the second `send`, whose frame
is lost, and the third one raises. -/
def floodEvents : List (InjectEvent String Unit ℚ) :=
  [.round () 1, .deliver 1, .other (.call (.get "ids")), .round () 2, .other (.call .close),
    .deliver 2, .round () 3]

theorem injection_delivers_flood : ∃ s : Injection String ℚ ℕ,
    Machine.run (step (injectDosFlood 5000 0) (some fun _ told => (.ok (), told + 1)))
        (start (VirtualCANBus.new.createSubscriber "ids" 0) 0 3) floodEvents = some s ∧
      s.injected.length + s.remaining = 3 ∧
      ∃ q, s.bus.queues "ids" = some q ∧
        s.injected.dropLast.Sublist (s.bus.taken "ids" ++ q.items) := by
  have hsome : (Machine.run
      (step (injectDosFlood (5000 : ℚ) 0) (some fun _ told => (.ok (), told + 1)))
      (start (VirtualCANBus.new.createSubscriber "ids" 0) 0 3) floodEvents).isSome := by
    decide +kernel
  obtain ⟨s, hs⟩ := Option.isSome_iff_exists.mp hsome
  have hbus : Machine.run VirtualCANBus.step .new [.call (.create "ids" 0)] =
      some (VirtualCANBus.new.createSubscriber "ids" 0 : VirtualCANBus String ℚ) := rfl
  obtain ⟨hrounds, _, _, hheard, _⟩ := injection_delivers hbus 0 3 hs
  obtain ⟨q, hq, hgot, _⟩ := hheard "ids" (.empty _ 0) List.mem_cons_self rfl le_rfl
    (by simp [floodEvents])
  exact ⟨s, hs, hrounds, q, hq, hgot⟩

end Injection

end CanSentinel
