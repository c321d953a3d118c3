import CanSentinel.Lib.Notify
import CanSentinel.Lib.Publish
import CanSentinel.Bus.Listener
import CanSentinel.Sim.Live

/-!
# The simulator on its bus (`VehicleECUSimulator.start`, `stop`, `_broadcast`)

`Sim/Live.lean` takes an iteration of an ECU as one step, on a bus that is always open. Here
`_broadcast` has all its steps, other threads use and close the bus, and the simulator may be
stopped and started again. A thread that a `stop` has not waited for goes on next to those of
the next `start`.

- `LiveSimulator.step`: the interleaving of the threads of all starts with other users of the
  bus. A thread is known by the number of its `start` and by its ECU.
- `EcuInv`: a thread broadcasts the messages of its cycle one after the other.
- `simulator_on_bus`: what the bus, the queues and the callbacks get, and when a thread ends.
-/

namespace CanSentinel

variable {κ R W : Type} [DecidableEq κ] [PyFloat R]

/-- Where an ECU thread stands, in the iteration `tick`; `rest` are the messages that are still
to be packed. -/
inductive EcuPosition (R : Type) where
  /-- not started yet -/
  | absent
  /-- at `while self.running` -/
  | test (tick : ℕ)
  /-- the next message is packed, and `bus.send` tests whether the bus is open -/
  | pack (tick : ℕ) (rest : List (Except PyError (CANFrame R)))
  /-- `bus.send` delivers next -/
  | deliver (tick : ℕ) (frame : CANFrame R) (rest : List (Except PyError (CANFrame R)))
  /-- callback number `k` is called next -/
  | notify (tick : ℕ) (frame : CANFrame R) (k : ℕ) (rest : List (Except PyError (CANFrame R)))
  | ended

/-- What an ECU thread does next. -/
inductive EcuEvent (R : Type) where
  /-- the test of `running` and, if it holds, the snapshot; the clock is at `now` -/
  | test (now : R)
  | send
  | deliver
  | notify

/-- `VehicleECUSimulator` with its threads. `sent` and `told` record the deliveries and the
calls of the callbacks; the program does not keep them. -/
structure LiveSimulator (κ R W : Type) where
  running : Bool
  /-- the number of starts -/
  generation : ℕ
  vehicle : VehicleState R
  /-- `time_sec` of the physics threads -/
  physics : ℕ → Option R
  bus : VirtualCANBus κ R
  world : W
  ecus : ℕ × Ecu → EcuPosition R
  sent : List ((ℕ × Ecu) × CANFrame R)
  told : List ((ℕ × Ecu) × ℕ × CANFrame R)

inductive LiveSimEvent (κ R : Type) where
  | start
  | stop
  /-- a pass of a physics thread, or its end -/
  | physics (g : ℕ)
  | ecu (i : ℕ × Ecu) (e : EcuEvent R)
  /-- another user of the bus -/
  | other (op : VirtualCANBus.BusOp κ R)

namespace LiveSimulator

/-- `VehicleECUSimulator.__init__`. -/
def init (bus : VirtualCANBus κ R) (world : W) : LiveSimulator κ R W where
  running := false
  generation := 0
  vehicle := .new
  physics _ := none
  bus := bus
  world := world
  ecus _ := .absent
  sent := []
  told := []

def setEcu (s : LiveSimulator κ R W) (i : ℕ × Ecu) (p : EcuPosition R) : LiveSimulator κ R W :=
  { s with ecus := Function.update s.ecus i p }

variable (math : MathModule R) (callbacks : List (Callback PyError W (CANFrame R)))

/-- One step of an ECU thread. -/
def act (s : LiveSimulator κ R W) (i : ℕ × Ecu) (e : EcuEvent R) : Option (LiveSimulator κ R W) :=
  match e, s.ecus i with
  | .test now, .test tick =>
    let attempts := (i.2.kinds tick).map fun kind => kind.attempt s.vehicle now
    some (s.setEcu i (if s.running then .pack tick attempts else .ended))
  | .send, .pack tick [] => some (s.setEcu i (.test (tick + 1)))
  -- nothing catches what `struct.pack` or `bus.send` raises
  | .send, .pack _ (.error _ :: _) => some (s.setEcu i .ended)
  | .send, .pack tick (.ok frame :: rest) =>
    match s.bus.openTest with
    | .ok () => some (s.setEcu i (.deliver tick frame rest))
    | .error _ => some (s.setEcu i .ended)
  | .deliver, .deliver tick frame rest =>
    some { s.setEcu i (.notify tick frame 0 rest) with
      bus := s.bus.deliver frame
      sent := s.sent ++ [(i, frame)] }
  | .notify, .notify tick frame k rest =>
    match callbacks[k]? with
    | some cb =>
      some { s.setEcu i (.notify tick frame (k + 1) rest) with
        world := (cb frame s.world).2
        told := s.told ++ [(i, k, frame)] }
    | none => some (s.setEcu i (.pack tick rest))
  | _, _ => none

/-- One step of one thread; `none` when the thread is not at that point. -/
def step (s : LiveSimulator κ R W) : LiveSimEvent κ R → Option (LiveSimulator κ R W)
  | .start =>
    if s.running then some s
    else some { s with
      running := true
      generation := s.generation + 1
      physics := Function.update s.physics s.generation (some 0.0)
      ecus := fun i => if i.1 = s.generation then .test 0 else s.ecus i }
  | .stop => some { s with running := false }
  | .physics g =>
    match s.physics g with
    | none => none
    | some timeSec =>
      if s.running then some { s with
        vehicle := s.vehicle.physics math timeSec
        physics := Function.update s.physics g (some (timeSec + 0.05)) }
      else some { s with physics := Function.update s.physics g none }
  | .ecu i e => s.act callbacks i e
  | .other op => (s.bus.step op).map fun bus => { s with bus := bus }

/-- What one step of an ECU thread does. -/
inductive Acts (s : LiveSimulator κ R W) (i : ℕ × Ecu) :
    EcuEvent R → LiveSimulator κ R W → Prop
  | snapshot (now : R) (tick : ℕ) (h : s.ecus i = .test tick) (hrunning : s.running = true) :
      Acts s i (.test now)
        (s.setEcu i (.pack tick ((i.2.kinds tick).map fun kind => kind.attempt s.vehicle now)))
  | leave (now : R) (tick : ℕ) (h : s.ecus i = .test tick) (hrunning : s.running = false) :
      Acts s i (.test now) (s.setEcu i .ended)
  | sleep (tick : ℕ) (h : s.ecus i = .pack tick []) : Acts s i .send (s.setEcu i (.test (tick + 1)))
  | unpacked (tick : ℕ) (e : PyError) (rest : List (Except PyError (CANFrame R)))
      (h : s.ecus i = .pack tick (.error e :: rest)) : Acts s i .send (s.setEcu i .ended)
  | pass (tick : ℕ) (frame : CANFrame R) (rest : List (Except PyError (CANFrame R)))
      (h : s.ecus i = .pack tick (.ok frame :: rest)) (hopen : s.bus.isOpen = true) :
      Acts s i .send (s.setEcu i (.deliver tick frame rest))
  | closed (tick : ℕ) (frame : CANFrame R) (rest : List (Except PyError (CANFrame R)))
      (h : s.ecus i = .pack tick (.ok frame :: rest)) (hopen : s.bus.isOpen = false) :
      Acts s i .send (s.setEcu i .ended)
  | deliver (tick : ℕ) (frame : CANFrame R) (rest : List (Except PyError (CANFrame R)))
      (h : s.ecus i = .deliver tick frame rest) :
      Acts s i .deliver { s.setEcu i (.notify tick frame 0 rest) with
        bus := s.bus.deliver frame
        sent := s.sent ++ [(i, frame)] }
  | call (tick : ℕ) (frame : CANFrame R) (k : ℕ) (rest : List (Except PyError (CANFrame R)))
      (cb : Callback PyError W (CANFrame R)) (h : s.ecus i = .notify tick frame k rest)
      (hcb : callbacks[k]? = some cb) :
      Acts s i .notify { s.setEcu i (.notify tick frame (k + 1) rest) with
        world := (cb frame s.world).2
        told := s.told ++ [(i, k, frame)] }
  | notified (tick : ℕ) (frame : CANFrame R) (k : ℕ) (rest : List (Except PyError (CANFrame R)))
      (h : s.ecus i = .notify tick frame k rest) (hend : callbacks.length ≤ k) :
      Acts s i .notify (s.setEcu i (.pack tick rest))

/-- What one step does. -/
inductive Step (s : LiveSimulator κ R W) : LiveSimEvent κ R → LiveSimulator κ R W → Prop
  | start (h : s.running = false) :
      Step s .start { s with
        running := true
        generation := s.generation + 1
        physics := Function.update s.physics s.generation (some 0.0)
        ecus := fun i => if i.1 = s.generation then .test 0 else s.ecus i }
  | started (h : s.running = true) : Step s .start s
  | stop : Step s .stop { s with running := false }
  | physics (g : ℕ) (timeSec : R) (next : Option R) :
      Step s (.physics g) { s with
        vehicle := s.vehicle.physics math timeSec
        physics := Function.update s.physics g next }
  | parked (g : ℕ) :
      Step s (.physics g) { s with physics := Function.update s.physics g none }
  | ecu (i : ℕ × Ecu) (e : EcuEvent R) (s' : LiveSimulator κ R W) (h : Acts callbacks s i e s') :
      Step s (.ecu i e) s'
  | other (op : VirtualCANBus.BusOp κ R) (bus : VirtualCANBus κ R) (h : s.bus.step op = some bus) :
      Step s (.other op) { s with bus := bus }

section Step

variable {math callbacks} {s s' : LiveSimulator κ R W}

theorem acts_of_eq_some {i : ℕ × Ecu} {e : EcuEvent R} (h : s.act callbacks i e = some s') :
    Acts callbacks s i e s' := by
  unfold act at h
  split at h
  next now tick hpos =>
    cases hrunning : s.running with
    | true =>
      rw [hrunning] at h
      cases h
      exact .snapshot now tick hpos hrunning
    | false =>
      rw [hrunning] at h
      cases h
      exact .leave now tick hpos hrunning
  next tick hpos =>
    cases h
    exact .sleep tick hpos
  next tick e rest hpos =>
    cases h
    exact .unpacked tick e rest hpos
  next tick frame rest hpos =>
    cases hopen : s.bus.isOpen with
    | true =>
      rw [VirtualCANBus.openTest, if_pos hopen] at h
      cases h
      exact .pass tick frame rest hpos hopen
    | false =>
      rw [VirtualCANBus.openTest, hopen] at h
      cases h
      exact .closed tick frame rest hpos hopen
  next tick frame rest hpos =>
    cases h
    exact .deliver tick frame rest hpos
  next tick frame k rest hpos =>
    cases hcb : callbacks[k]? with
    | some cb =>
      rw [hcb] at h
      cases h
      exact .call tick frame k rest cb hpos hcb
    | none =>
      rw [hcb] at h
      cases h
      exact .notified tick frame k rest hpos (List.getElem?_eq_none_iff.mp hcb)
  next => cases h

/-- **Inversion of a step.** -/
theorem step_of_eq_some {e : LiveSimEvent κ R} (h : s.step math callbacks e = some s') :
    Step math callbacks s e s' := by
  cases e with
  | start =>
    rw [step] at h
    cases hrunning : s.running with
    | true =>
      rw [hrunning, if_pos rfl] at h
      cases h
      exact .started hrunning
    | false =>
      rw [hrunning, if_neg Bool.false_ne_true] at h
      cases h
      exact .start hrunning
  | stop =>
    cases h
    exact .stop
  | physics g =>
    rw [step] at h
    cases hg : s.physics g with
    | none =>
      rw [hg] at h
      cases h
    | some timeSec =>
      rw [hg] at h
      dsimp only at h
      cases hrunning : s.running with
      | true =>
        rw [hrunning, if_pos rfl] at h
        cases h
        exact hrunning ▸ .physics g timeSec _
      | false =>
        rw [hrunning, if_neg Bool.false_ne_true] at h
        cases h
        exact hrunning ▸ .parked g
  | ecu i e => exact .ecu i e s' (acts_of_eq_some h)
  | other op =>
    obtain ⟨bus, hbus, rfl⟩ := Option.map_eq_some_iff.mp h
    exact .other op bus hbus

end Step

end LiveSimulator

/-! ## One thread -/

/-- The messages of the iteration that are still to be delivered. -/
def EcuPosition.pending : EcuPosition R → List (Except PyError (CANFrame R))
  | .pack _ rest => rest
  | .deliver _ frame rest => .ok frame :: rest
  | .notify _ _ _ rest => rest
  | _ => []

/-- The iterations that have begun. -/
def EcuPosition.begun : EcuPosition R → ℕ
  | .test tick => tick
  | .pack tick _ => tick + 1
  | .deliver tick _ _ => tick + 1
  | .notify tick _ _ _ => tick + 1
  | _ => 0

/-- The ids of the first `n` iterations of an ECU. -/
def Ecu.cycle (ecu : Ecu) (n : ℕ) : List ℤ :=
  (List.range n).flatMap fun tick => (ecu.kinds tick).map EcuMessage.canId

theorem Ecu.cycle_succ (ecu : Ecu) (n : ℕ) :
    ecu.cycle (n + 1) = ecu.cycle n ++ (ecu.kinds n).map EcuMessage.canId := by
  rw [Ecu.cycle, List.range_succ, List.flatMap_append, List.flatMap_singleton]
  rfl

theorem Ecu.length_kinds_le (ecu : Ecu) (tick : ℕ) : (ecu.kinds tick).length ≤ 3 := by
  cases ecu with
  | engine =>
    show (engineEcuLoop tick).length ≤ 3
    unfold engineEcuLoop
    split <;> split <;> simp
  | body =>
    show (bodyEcuLoop tick).length ≤ 3
    unfold bodyEcuLoop
    split <;> simp
  | _ => exact (by decide : 1 ≤ 3)

/-- The messages of an iteration that are still to be delivered: all of them can be packed. -/
def Pending (pending : List (Except PyError (CANFrame R))) (kinds : List EcuMessage) : Prop :=
  kinds.length ≤ 3 ∧ ∃ (v : VehicleState R) (now : R), v.InBounds ∧
    pending = kinds.map fun kind => .ok (kind.sent v now)

theorem pending_nil : Pending ([] : List (Except PyError (CANFrame R))) [] :=
  ⟨Nat.zero_le 3, .new, 0, VehicleState.new_inBounds, rfl⟩

/-- The first of the messages. -/
theorem Pending.cons {attempt : Except PyError (CANFrame R)}
    {rest : List (Except PyError (CANFrame R))} {kinds : List EcuMessage}
    (h : Pending (attempt :: rest) kinds) :
    ∃ kind kinds' frame, kinds = kind :: kinds' ∧ attempt = .ok frame ∧ frame.WellFormed ∧
      frame.canId = kind.canId ∧ Pending rest kinds' := by
  obtain ⟨hlen, v, now, hv, hrest⟩ := h
  cases kinds with
  | nil => cases hrest
  | cons kind kinds =>
    obtain ⟨hhead, htail⟩ := List.cons.inj hrest
    exact ⟨kind, kinds, kind.sent v now, rfl, hhead, kind.sent_wellFormed hv now, rfl,
      (Nat.le_succ _).trans hlen, v, now, hv, htail⟩

/-- The invariant of a thread that has delivered `frames`. -/
structure EcuInv (ecu : Ecu) (frames : List (CANFrame R)) (p : EcuPosition R) : Prop where
  pending : ∃ kinds, Pending p.pending kinds ∧ (p ≠ .ended →
    frames.map CANFrame.canId ++ kinds.map EcuMessage.canId = ecu.cycle p.begun)
  cycle : ∃ n, frames.map CANFrame.canId <+: ecu.cycle n

theorem EcuInv.of_pending {ecu : Ecu} {frames : List (CANFrame R)} {p : EcuPosition R}
    {kinds : List EcuMessage} (hpending : Pending p.pending kinds)
    (hcycle : frames.map CANFrame.canId ++ kinds.map EcuMessage.canId = ecu.cycle p.begun) :
    EcuInv ecu frames p :=
  ⟨⟨kinds, hpending, fun _ => hcycle⟩, p.begun, kinds.map EcuMessage.canId, hcycle⟩

theorem ecuInv_absent (ecu : Ecu) : EcuInv ecu [] (.absent : EcuPosition R) :=
  .of_pending pending_nil rfl

/-- A thread that ends has delivered a part of its cycle. -/
theorem EcuInv.end {ecu : Ecu} {frames : List (CANFrame R)} {p : EcuPosition R}
    (h : EcuInv ecu frames p) : EcuInv ecu frames .ended :=
  ⟨⟨[], pending_nil, fun hne => absurd rfl hne⟩, h.cycle⟩

/-- A move within an iteration. -/
theorem EcuInv.move {ecu : Ecu} {frames : List (CANFrame R)} {p q : EcuPosition R}
    (h : EcuInv ecu frames p) (hp : p ≠ .ended) (hpending : q.pending = p.pending)
    (hbegun : q.begun = p.begun) : EcuInv ecu frames q := by
  obtain ⟨kinds, hkinds, hcycle⟩ := h.pending
  have hq : Pending q.pending kinds := by
    rw [hpending]
    exact hkinds
  refine .of_pending hq ?_
  rw [hbegun]
  exact hcycle hp

/-- A snapshot of a vehicle within bounds. -/
theorem EcuInv.snapshot {ecu : Ecu} {frames : List (CANFrame R)} {tick : ℕ}
    (h : EcuInv ecu frames (.test tick)) {v : VehicleState R} (hv : v.InBounds) (now : R) :
    EcuInv ecu frames (.pack tick ((ecu.kinds tick).map fun kind => kind.attempt v now)) := by
  obtain ⟨kinds, ⟨_, _, _, _, hnone⟩, hcycle⟩ := h.pending
  obtain rfl := List.map_eq_nil_iff.mp hnone.symm
  have hids := hcycle nofun
  rw [List.map_nil, List.append_nil] at hids
  have hall : Pending ((ecu.kinds tick).map fun kind => kind.attempt v now) (ecu.kinds tick) :=
    ⟨ecu.length_kinds_le tick, v, now, hv,
      List.map_congr_left fun kind _ => kind.attempt_of_encodable hv.encodable now⟩
  refine .of_pending hall ?_
  rw [hids]
  exact (ecu.cycle_succ tick).symm

/-- The end of an iteration. -/
theorem EcuInv.sleep {ecu : Ecu} {frames : List (CANFrame R)} {tick : ℕ}
    (h : EcuInv ecu frames (.pack tick [])) : EcuInv ecu frames (.test (tick + 1)) := by
  obtain ⟨kinds, hkinds, hcycle⟩ := h.pending
  exact .of_pending hkinds (hcycle nofun)

/-- A delivery. -/
theorem EcuInv.deliver {ecu : Ecu} {frames : List (CANFrame R)} {tick : ℕ} {frame : CANFrame R}
    {rest : List (Except PyError (CANFrame R))}
    (h : EcuInv ecu frames (.deliver tick frame rest)) :
    frame.WellFormed ∧ EcuInv ecu (frames ++ [frame]) (.notify tick frame 0 rest) := by
  obtain ⟨kinds, hkinds, hcycle⟩ := h.pending
  obtain ⟨kind, kinds', frame', rfl, hframe, hwf, hid, hrest⟩ := hkinds.cons
  obtain rfl := Except.ok.inj hframe
  refine ⟨hwf, .of_pending hrest ?_⟩
  rw [List.map_append, List.map_singleton, hid, List.append_assoc]
  exact hcycle nofun

/-! ## All threads -/

namespace LiveSimulator

variable {math : MathModule R} {callbacks : List (Callback PyError W (CANFrame R))}
  {s s' : LiveSimulator κ R W} {es : List (LiveSimEvent κ R)}

/-- The invariant of a run. -/
structure SimInv (es : List (LiveSimEvent κ R)) (s : LiveSimulator κ R W) : Prop where
  vehicle : s.vehicle.InBounds
  fresh : ∀ i, s.generation ≤ i.1 → s.ecus i = .absent
  threads : ∀ i, EcuInv i.2 (publishedBy i s.sent) (s.ecus i)
  wellFormed : ∀ d ∈ s.sent, d.2.WellFormed
  started : ∀ i, s.ecus i ≠ .absent → s.running = true ∨ .stop ∈ es
  ended : ∀ i, s.ecus i = .ended → .stop ∈ es ∨ s.bus.isOpen = false

omit [DecidableEq κ] in
theorem simInv_init (bus : VirtualCANBus κ R) (world : W) : SimInv [] (init bus world) where
  vehicle := VehicleState.new_inBounds
  fresh := fun _ _ => rfl
  threads := fun i => ecuInv_absent i.2
  wellFormed := by
    intro d hd
    cases hd
  started := fun _ h => absurd rfl h
  ended := fun _ => nofun

omit [DecidableEq κ] in
/-- A step of the thread `i`. -/
theorem SimInv.act (h : SimInv es s) {i : ℕ × Ecu} {p : EcuPosition R} {e : LiveSimEvent κ R}
    (hs : s'.ecus = Function.update s.ecus i p) (hrunning : s'.running = s.running)
    (hgeneration : s'.generation = s.generation) (hvehicle : s'.vehicle = s.vehicle)
    (hopen : s'.bus.isOpen = s.bus.isOpen) (hold : s.ecus i ≠ .absent)
    (hothers : ∀ j, i ≠ j → publishedBy j s'.sent = publishedBy j s.sent)
    (hwf : ∀ d ∈ s'.sent, d.2.WellFormed) (hi : EcuInv i.2 (publishedBy i s'.sent) p)
    (hended : p = .ended → .stop ∈ es ∨ s.bus.isOpen = false) : SimInv (es ++ [e]) s' := by
  have hkept (j : ℕ × Ecu) (hij : i ≠ j) : s'.ecus j = s.ecus j := by
    rw [hs, Function.update_of_ne (Ne.symm hij)]
  have hnew : s'.ecus i = p := by rw [hs, Function.update_self]
  refine ⟨hvehicle ▸ h.vehicle, ?_, ?_, hwf, ?_, ?_⟩
  · intro j hj
    rw [hgeneration] at hj
    have hij : i ≠ j := by
      rintro rfl
      exact hold (h.fresh i hj)
    rw [hkept j hij]
    exact h.fresh j hj
  · intro j
    by_cases hij : i = j
    · subst hij
      rw [hnew]
      exact hi
    · rw [hkept j hij, hothers j hij]
      exact h.threads j
  · intro j hj
    rw [hrunning]
    have hbefore : s.ecus j ≠ .absent := by
      by_cases hij : i = j
      · exact hij ▸ hold
      · exact hkept j hij ▸ hj
    exact (h.started j hbefore).imp_right (List.mem_append_left _)
  · intro j hj
    rw [hopen]
    refine Or.imp_left (List.mem_append_left _) ?_
    by_cases hij : i = j
    · subst hij
      exact hended (hnew.symm.trans hj)
    · exact h.ended j ((hkept j hij).symm.trans hj)

omit [DecidableEq κ] in
/-- A step that leaves the threads of the ECUs alone. -/
theorem SimInv.other (h : SimInv es s) {e : LiveSimEvent κ R} (hecus : s'.ecus = s.ecus)
    (hgeneration : s'.generation = s.generation) (hsent : s'.sent = s.sent)
    (hvehicle : s'.vehicle.InBounds)
    (hrunning : s.running = true → s'.running = true ∨ .stop ∈ es ++ [e])
    (hopen : s.bus.isOpen = false → s'.bus.isOpen = false) : SimInv (es ++ [e]) s' := by
  refine ⟨hvehicle, ?_, ?_, hsent ▸ h.wellFormed, ?_, ?_⟩
  · intro i hi
    rw [hgeneration] at hi
    rw [hecus]
    exact h.fresh i hi
  · intro i
    rw [hecus, hsent]
    exact h.threads i
  · intro i hi
    rw [hecus] at hi
    exact (h.started i hi).elim hrunning fun hstop => .inr (List.mem_append_left _ hstop)
  · intro i hi
    rw [hecus] at hi
    exact (h.ended i hi).imp (List.mem_append_left _) hopen

/-- **The step.** -/
theorem SimInv.step (hsin : math.SinBounded) (h : SimInv es s) {e : LiveSimEvent κ R}
    (hstep : Step math callbacks s e s') : SimInv (es ++ [e]) s' := by
  cases hstep with
  | start hrunning =>
    refine ⟨h.vehicle, ?_, ?_, h.wellFormed, fun _ _ => .inl rfl, ?_⟩
    · intro i hi
      have hlt : s.generation < i.1 := hi
      exact (if_neg hlt.ne').trans (h.fresh i hlt.le)
    · intro i
      show EcuInv i.2 (publishedBy i s.sent) (if i.1 = s.generation then _ else _)
      by_cases hi : i.1 = s.generation
      · -- a new thread has sent nothing yet
        have habsent := h.threads i
        rw [h.fresh i hi.ge] at habsent
        rw [if_pos hi]
        exact habsent.move nofun rfl rfl
      · rw [if_neg hi]
        exact h.threads i
    · intro i hended
      have hended : (if i.1 = s.generation then _ else _) = EcuPosition.ended := hended
      by_cases hi : i.1 = s.generation
      · rw [if_pos hi] at hended
        cases hended
      · -- a thread of an earlier start stays ended
        rw [if_neg hi] at hended
        exact (h.ended i hended).imp_left (List.mem_append_left _)
  | started hrunning => exact h.other rfl rfl rfl h.vehicle .inl id
  | stop =>
    exact h.other rfl rfl rfl h.vehicle (fun _ => .inr (List.mem_append_right _ List.mem_cons_self))
      id
  | physics g timeSec next =>
    exact h.other rfl rfl rfl (VehicleState.physics_inBounds hsin h.vehicle timeSec) .inl id
  | parked g => exact h.other rfl rfl rfl h.vehicle .inl id
  | other op bus hop =>
    exact h.other rfl rfl rfl h.vehicle .inl (VirtualCANBus.isOpen_step hop).2
  | ecu i e s' hacts =>
    have hi := h.threads i
    cases hacts with
    | snapshot now tick hpos hrunning =>
      rw [hpos] at hi
      exact h.act rfl rfl rfl rfl rfl (by rw [hpos]; nofun) (fun _ _ => rfl) h.wellFormed
        (hi.snapshot h.vehicle now) nofun
    | leave now tick hpos hrunning =>
      -- the thread was started, so `running` was cleared after that
      refine h.act rfl rfl rfl rfl rfl (by rw [hpos]; nofun) (fun _ _ => rfl) h.wellFormed
        hi.end fun _ => .inl ?_
      have hstarted := h.started i (by rw [hpos]; nofun)
      rw [hrunning] at hstarted
      exact hstarted.resolve_left Bool.false_ne_true
    | sleep tick hpos =>
      rw [hpos] at hi
      exact h.act rfl rfl rfl rfl rfl (by rw [hpos]; nofun) (fun _ _ => rfl) h.wellFormed
        hi.sleep nofun
    | unpacked tick e rest hpos =>
      -- within its bounds, the vehicle can always be packed
      rw [hpos] at hi
      obtain ⟨kinds, hkinds, _⟩ := hi.pending
      obtain ⟨_, _, frame, _, hframe, _⟩ := hkinds.cons
      cases hframe
    | pass tick frame rest hpos hopen =>
      rw [hpos] at hi
      exact h.act rfl rfl rfl rfl rfl (by rw [hpos]; nofun) (fun _ _ => rfl) h.wellFormed
        (hi.move nofun rfl rfl) nofun
    | closed tick frame rest hpos hopen =>
      exact h.act rfl rfl rfl rfl rfl (by rw [hpos]; nofun) (fun _ _ => rfl) h.wellFormed
        hi.end fun _ => .inr hopen
    | deliver tick frame rest hpos =>
      -- the bus may be closed by now; the delivery goes on
      rw [hpos] at hi
      obtain ⟨hframe, hnext⟩ := hi.deliver
      refine h.act rfl rfl rfl rfl rfl (by rw [hpos]; nofun) ?_ ?_ ?_ nofun
      · intro j hij
        show publishedBy j (s.sent ++ [(i, frame)]) = _
        rw [Publishers.publishedBy_concat, if_neg hij, List.append_nil]
      · show ∀ d ∈ s.sent ++ [(i, frame)], d.2.WellFormed
        rw [List.forall_mem_append, List.forall_mem_singleton]
        exact ⟨h.wellFormed, hframe⟩
      · show EcuInv i.2 (publishedBy i (s.sent ++ [(i, frame)])) _
        rw [Publishers.publishedBy_concat, if_pos rfl]
        exact hnext
    | call tick frame k rest cb hpos hcb =>
      rw [hpos] at hi
      exact h.act rfl rfl rfl rfl rfl (by rw [hpos]; nofun) (fun _ _ => rfl) h.wellFormed
        (hi.move nofun rfl rfl) nofun
    | notified tick frame k rest hpos hend =>
      rw [hpos] at hi
      exact h.act rfl rfl rfl rfl rfl (by rw [hpos]; nofun) (fun _ _ => rfl) h.wellFormed
        (hi.move nofun rfl rfl) nofun

theorem simInv_run (hsin : math.SinBounded) {bus₀ : VirtualCANBus κ R} {world : W}
    (hrun : Machine.run (step math callbacks) (init bus₀ world) es = some s) : SimInv es s :=
  Machine.run_inv (simInv_init bus₀ world)
    (fun _ _ _ _ h hstep => h.step hsin (step_of_eq_some hstep)) hrun

end LiveSimulator

/-! ## Callbacks -/

/-- The frame in `_broadcast` and the number of the callback that is called next. -/
def EcuPosition.inFlight : EcuPosition R → Option (CANFrame R × ℕ)
  | .notify _ frame k _ => some (frame, k)
  | _ => none

namespace LiveSimulator

/-- The threads as publishers. -/
def publishers (s : LiveSimulator κ R W) : Publishers (ℕ × Ecu) (CANFrame R) :=
  ⟨fun i => (s.ecus i).inFlight, s.sent, s.told⟩

section Callbacks

variable {math : MathModule R} {callbacks : List (Callback PyError W (CANFrame R))}
  {s s' : LiveSimulator κ R W} {i : ℕ × Ecu} {next : EcuPosition R}

omit [DecidableEq κ] [PyFloat R] in
theorem publishers_update (s s' : LiveSimulator κ R W)
    (hs : s'.ecus = Function.update s.ecus i next) :
    s'.publishers =
      ⟨Function.update s.publishers.inFlight i next.inFlight, s'.sent, s'.told⟩ := by
  have hinFlight := Function.comp_update EcuPosition.inFlight s.ecus i next
  rw [← hs] at hinFlight
  exact congrArg (Publishers.mk · s'.sent s'.told) hinFlight

omit [DecidableEq κ] [PyFloat R] in
/-- A step of a thread that delivers nothing and calls nothing. -/
theorem publishers_same (hs : s'.ecus = Function.update s.ecus i next)
    (hsent : s'.sent = s.sent) (htold : s'.told = s.told)
    (hsame : next.inFlight = (s.ecus i).inFlight) : s'.publishers = s.publishers := by
  have hi : next.inFlight = s.publishers.inFlight i := hsame
  rw [publishers_update s s' hs, hsent, htold, hi, Function.update_eq_self]
  rfl

/-- A frame is published when the bus delivers it. -/
theorem publishers_step {e : LiveSimEvent κ R}
    (hfresh : ∀ i, s.generation ≤ i.1 → s.ecus i = .absent)
    (hstep : Step math callbacks s e s') :
    s'.publishers = s.publishers ∨
      ∃ x, s.publishers.step callbacks.length x = some s'.publishers := by
  cases hstep with
  | start _ =>
    refine .inl (congrArg (Publishers.mk · s.sent s.told) (funext fun i => ?_))
    show EcuPosition.inFlight (if i.1 = s.generation then _ else _) = _
    by_cases hi : i.1 = s.generation
    · rw [if_pos hi, hfresh i hi.ge]
      rfl
    · rw [if_neg hi]
  | started _ => exact .inl rfl
  | stop => exact .inl rfl
  | physics _ _ _ => exact .inl rfl
  | parked _ => exact .inl rfl
  | other _ _ _ => exact .inl rfl
  | ecu i e s' h =>
    cases h with
    | snapshot now tick hpos _ => exact .inl (publishers_same rfl rfl rfl (by rw [hpos]; rfl))
    | leave now tick hpos _ => exact .inl (publishers_same rfl rfl rfl (by rw [hpos]; rfl))
    | sleep tick hpos => exact .inl (publishers_same rfl rfl rfl (by rw [hpos]; rfl))
    | unpacked tick e rest hpos => exact .inl (publishers_same rfl rfl rfl (by rw [hpos]; rfl))
    | pass tick frame rest hpos _ => exact .inl (publishers_same rfl rfl rfl (by rw [hpos]; rfl))
    | closed tick frame rest hpos _ =>
      exact .inl (publishers_same rfl rfl rfl (by rw [hpos]; rfl))
    | deliver tick frame rest hpos =>
      -- nothing was in flight, since the callbacks of the last frame are through
      refine .inr ⟨.publish i frame, ?_⟩
      have hi : s.publishers.inFlight i = none := congrArg EcuPosition.inFlight hpos
      rw [Publishers.step, hi,
        publishers_update s { s.setEcu i _ with bus := _, sent := _ } rfl]
      rfl
    | call tick frame k rest cb hpos hcb =>
      refine .inr ⟨.next i, ?_⟩
      have hi : s.publishers.inFlight i = some (frame, k) := congrArg EcuPosition.inFlight hpos
      obtain ⟨hk, _⟩ := List.getElem?_eq_some_iff.mp hcb
      rw [Publishers.step, hi]
      dsimp only
      rw [if_pos hk, publishers_update s { s.setEcu i _ with world := _, told := _ } rfl]
      rfl
    | notified tick frame k rest hpos hend =>
      refine .inr ⟨.next i, ?_⟩
      have hi : s.publishers.inFlight i = some (frame, k) := congrArg EcuPosition.inFlight hpos
      rw [Publishers.step, hi]
      dsimp only
      rw [if_neg (not_lt.mpr hend), publishers_update s (s.setEcu i _) rfl]
      rfl

/-- Every callback is behind the deliveries of a thread by one frame at most. -/
theorem told_run (hsin : math.SinBounded) {bus₀ : VirtualCANBus κ R} {world : W}
    {es : List (LiveSimEvent κ R)}
    (hrun : Machine.run (step math callbacks) (init bus₀ world) es = some s) (i : ℕ × Ecu) {k : ℕ}
    (hk : k < callbacks.length) :
    toldBy i k s.told ++ owed (s.ecus i).inFlight k = publishedBy i s.sent := by
  have hstart : ∃ es : List (LiveSimEvent κ R), SimInv es (init bus₀ world) :=
    ⟨[], simInv_init bus₀ world⟩
  have hstep (s : LiveSimulator κ R W) (e : LiveSimEvent κ R) (s' : LiveSimulator κ R W)
      (hs : ∃ es : List (LiveSimEvent κ R), SimInv es s)
      (he : s.step math callbacks e = some s') :
      (∃ es : List (LiveSimEvent κ R), SimInv es s') ∧ (s'.publishers = s.publishers ∨
        ∃ x, s.publishers.step callbacks.length x = some s'.publishers) := by
    obtain ⟨es, h⟩ := hs
    have hinv := step_of_eq_some he
    exact ⟨⟨_, h.step hsin hinv⟩, publishers_step h.fresh hinv⟩
  obtain ⟨xs, hxs⟩ := Machine.run_stutter (p := publishers) hstep hstart hrun
  exact Publishers.toldBy_append_owed hxs i hk

end Callbacks

/-! ## A subscriber -/

section Subscriber

variable {math : MathModule R} {callbacks : List (Callback PyError W (CANFrame R))}
  {s s' : LiveSimulator κ R W} {k : κ}

/-- **The step**, for a queue that has got all deliveries, on a bus that stays open. -/
theorem hears_step {e : LiveSimEvent κ R} (hopen : s.bus.isOpen = true)
    (h : VirtualCANBus.Hears k (s.sent.map Prod.snd) s.bus)
    (hstep : Step math callbacks s e s') (hremove : e ≠ .other (.call (.remove k)))
    (hclose : e ≠ .other (.call .close)) :
    s'.bus.isOpen = true ∧ VirtualCANBus.Hears k (s'.sent.map Prod.snd) s'.bus := by
  cases hstep with
  | start _ => exact ⟨hopen, h⟩
  | started _ => exact ⟨hopen, h⟩
  | stop => exact ⟨hopen, h⟩
  | physics _ _ _ => exact ⟨hopen, h⟩
  | parked _ => exact ⟨hopen, h⟩
  | other op bus hop =>
    exact ⟨(VirtualCANBus.isOpen_step hop).1 hopen fun hne => hclose (by rw [hne]),
      h.other hop fun hne => hremove (by rw [hne])⟩
  | ecu i e s' hacts =>
    cases hacts with
    | deliver tick frame rest hpos =>
      refine ⟨hopen, ?_⟩
      show VirtualCANBus.Hears k ((s.sent ++ [(i, frame)]).map Prod.snd) (s.bus.deliver frame)
      rw [List.map_append]
      exact h.deliver hopen frame
    | _ => exact ⟨hopen, h⟩

theorem hears_run {bus₀ : VirtualCANBus κ R} (hwf : bus₀.WellFormed) (hopen : bus₀.isOpen = true)
    {q₀ : BoundedQueue (CANFrame R)} (hk : k ∈ bus₀.subscribers) (hq : bus₀.queues k = some q₀)
    (hsize : q₀.maxsize ≤ 0) {world : W} {es : List (LiveSimEvent κ R)}
    (hremove : .other (.call (.remove k)) ∉ es) (hclose : .other (.call .close) ∉ es)
    (hrun : Machine.run (step math callbacks) (init bus₀ world) es = some s) :
    VirtualCANBus.Hears k (s.sent.map Prod.snd) s.bus := by
  let I (es : List (LiveSimEvent κ R)) (s : LiveSimulator κ R W) : Prop :=
    .other (.call (.remove k)) ∉ es → .other (.call .close) ∉ es →
      s.bus.isOpen = true ∧ VirtualCANBus.Hears k (s.sent.map Prod.snd) s.bus
  have hstart : I [] (init bus₀ world) :=
    fun _ _ => ⟨hopen, VirtualCANBus.hears_nil hwf hk hq hsize⟩
  have hinv := Machine.run_inv hstart ?_ hrun
  · exact (hinv hremove hclose).2
  · intro pre s e s' h hstep hremove hclose
    rw [List.mem_append, not_or, List.mem_singleton] at hremove hclose
    obtain ⟨hbefore, hheard⟩ := h hremove.1 hclose.1
    exact hears_step hbefore hheard (step_of_eq_some hstep) (Ne.symm hremove.2)
      (Ne.symm hclose.2)

end Subscriber

/-! ## The simulator -/

variable {math : MathModule R}

/-- **The simulator on a bus that others use.** In every interleaving of the threads of all
starts, of `start` and `stop` and of the operations of other threads on the bus:

- the ids that a thread has put on the bus are the beginning of the cycle of its ECU;
- callback number `k` was called with all frames that a thread has put on the bus, in order,
  but for the one in `_broadcast` if the call is still to come;
- a thread has ended only if `stop` has been called or the bus is closed;
- all frames that it puts on the bus are well formed;
- an unbounded queue that was registered before gets the frames of all threads, in order, as
  long as nobody removes it or closes the bus, whatever is done to the other queues. -/
theorem simulator_on_bus (hsin : math.SinBounded)
    (callbacks : List (Callback PyError W (CANFrame R)))
    {ops₀ : List (VirtualCANBus.BusOp κ R)} {bus₀ : VirtualCANBus κ R}
    (hbus : Machine.run VirtualCANBus.step .new ops₀ = some bus₀) (world : W)
    (es : List (LiveSimEvent κ R)) (s : LiveSimulator κ R W)
    (hrun : Machine.run (step math callbacks) (init bus₀ world) es = some s) :
    (∀ i,
      let frames := publishedBy i s.sent
      (∃ n, frames.map CANFrame.canId <+: i.2.cycle n) ∧
        (∀ k < callbacks.length, toldBy i k s.told ++ owed (s.ecus i).inFlight k = frames) ∧
        (s.ecus i = .ended → .stop ∈ es ∨ s.bus.isOpen = false)) ∧
      (∀ d ∈ s.sent, d.2.WellFormed) ∧
      ∀ k q₀, bus₀.isOpen = true → k ∈ bus₀.subscribers → bus₀.queues k = some q₀ →
        q₀.maxsize ≤ 0 → .other (.call (.remove k)) ∉ es → .other (.call .close) ∉ es →
        ∃ q, s.bus.queues k = some q ∧
          (s.sent.map Prod.snd).Sublist (s.bus.taken k ++ q.items) := by
  have h := simInv_run hsin hrun
  refine ⟨?_, h.wellFormed, ?_⟩
  · intro i
    exact ⟨(h.threads i).cycle, fun k hk => told_run hsin hrun i hk, h.ended i⟩
  · intro k q₀ hopen hk hq hsize hremove hclose
    have hwf := (VirtualCANBus.delivered_run hbus).wellFormed
    obtain ⟨q, hq, _, hgot⟩ := (hears_run hwf hopen hk hq hsize hremove hclose hrun).got
    exact ⟨q, hq, hgot⟩

/-- A message of the brakes, with a callback that raises and one that does not. -/
def brakeEvents : List (LiveSimEvent String ℚ) :=
  [.start, .physics 0, .ecu (0, .brake) (.test 1), .ecu (0, .brake) .send,
    .ecu (0, .brake) .deliver, .ecu (0, .brake) .notify, .ecu (0, .brake) .notify,
    .other (.call (.get "ids")), .ecu (0, .brake) .notify, .stop, .ecu (0, .brake) .send,
    .ecu (0, .brake) (.test 2)]

/-- What the first callback was told. -/
theorem simulator_on_bus_brake : ∃ s : LiveSimulator String ℚ ℕ,
    Machine.run (step ⟨fun _ => 0, 3⟩
        [fun _ told => (.error (.runtimeError "gui"), told), fun _ told => (.ok (), told + 1)])
      (init (VirtualCANBus.new.createSubscriber "ids" 0) 0) brakeEvents = some s ∧
      toldBy (0, .brake) 0 s.told ++ owed (s.ecus (0, .brake)).inFlight 0 =
        publishedBy (0, .brake) s.sent ∧ ∃ q, s.bus.queues "ids" = some q ∧
          (s.sent.map Prod.snd).Sublist (s.bus.taken "ids" ++ q.items) := by
  let callbacks : List (Callback PyError ℕ (CANFrame ℚ)) :=
    [fun _ told => (.error (.runtimeError "gui"), told), fun _ told => (.ok (), told + 1)]
  let bus₀ : VirtualCANBus String ℚ := VirtualCANBus.new.createSubscriber "ids" 0
  have hsin : (⟨fun _ => 0, 3⟩ : MathModule ℚ).SinBounded := fun _ => by norm_num
  have hbus : Machine.run VirtualCANBus.step .new [.call (.create "ids" 0)] = some bus₀ := rfl
  have hsome : (Machine.run (step ⟨fun _ => 0, 3⟩ callbacks)
      (init bus₀ 0) brakeEvents).isSome := by decide +kernel
  obtain ⟨s, hs⟩ := Option.isSome_iff_exists.mp hsome
  obtain ⟨hthreads, _, hheard⟩ := simulator_on_bus hsin callbacks hbus 0 brakeEvents s hs
  obtain ⟨_, htold, _⟩ := hthreads (0, .brake)
  exact ⟨s, hs, htold 0 (by decide),
    hheard "ids" (.empty _ 0) rfl List.mem_cons_self rfl le_rfl (by simp [brakeEvents])
      (by simp [brakeEvents])⟩

end LiveSimulator

end CanSentinel
