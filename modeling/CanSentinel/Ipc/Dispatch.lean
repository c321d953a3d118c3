import CanSentinel.Lib.Counter
import CanSentinel.Lib.Publish
import CanSentinel.Ipc.Lifecycle

/-!
# Dispatches without a lock

What `_dispatch_frame` does when the handlers interleave within it.

- `LiveServer.told_run`: the callbacks are behind the dispatches by one frame at most.
- `LiveServer.counter_run`: `total_frames_received` is an unlocked counter of the handlers.
- `live_server_exact`: what holds in every run of the server.
-/

namespace CanSentinel

open Framing

variable {ι R W : Type} [DecidableEq ι] [PyFloat R]

/-! ## The callbacks -/

/-- The frame in dispatch and the number of the callback that is called next. -/
def HandlerPosition.inFlight : HandlerPosition R → Option (CANFrame R × ℕ)
  | .count frame => some (frame, 0)
  | .counting frame _ => some (frame, 0)
  | .notify frame k => some (frame, k)
  | _ => none

namespace LiveServer

/-- The handlers as publishers. -/
def publishers (s : LiveServer ι R W) : Publishers ι (CANFrame R) :=
  ⟨fun i => (s.handlers i).position.inFlight, s.dispatched, s.told⟩

section Callbacks

variable {o : ByteOrder} {callbacks : List (Callback PyError W (CANFrame R))}
  {s s' : LiveServer ι R W} {i : ι} {next : Handler R}

omit [PyFloat R] in
theorem publishers_update (s s' : LiveServer ι R W)
    (hs : s'.handlers = Function.update s.handlers i next) :
    s'.publishers = ⟨Function.update s.publishers.inFlight i next.position.inFlight,
      s'.dispatched, s'.told⟩ := by
  have hinFlight :=
    Function.comp_update (fun h : Handler R => h.position.inFlight) s.handlers i next
  rw [← hs] at hinFlight
  exact congrArg (Publishers.mk · s'.dispatched s'.told) hinFlight

omit [PyFloat R] in
/-- A step of a handler that publishes nothing and calls nothing. -/
theorem publishers_same (hs : s'.handlers = Function.update s.handlers i next)
    (hdispatched : s'.dispatched = s.dispatched) (htold : s'.told = s.told)
    (hsame : next.position.inFlight = (s.handlers i).position.inFlight) :
    s'.publishers = s.publishers := by
  have hi : next.position.inFlight = s.publishers.inFlight i := hsame
  rw [publishers_update s s' hs, hdispatched, htold, hi, Function.update_eq_self]
  rfl

/-- A dispatch publishes its frame when the frame is cut off. -/
theorem publishers_step {e : LiveEvent ι R} (hstep : Step o callbacks s e s') :
    s'.publishers = s.publishers ∨
      ∃ x, s.publishers.step callbacks.length x = some s'.publishers := by
  cases hstep with
  | start _ => exact .inl rfl
  | started _ => exact .inl rfl
  | stop => exact .inl rfl
  | listener _ _ _ _ _ _ => exact .inl rfl
  | accepted k i hk hi => exact .inl (publishers_same rfl rfl rfl (by rw [hi]; rfl))
  | handler i e s' h =>
    cases h with
    | test hpos =>
      refine .inl (publishers_same rfl rfl rfl ?_)
      rw [hpos]
      cases s.running <;> rfl
    | recv chunk hpos _ _ => exact .inl (publishers_same rfl rfl rfl (by rw [hpos]; rfl))
    | eof hpos => exact .inl (publishers_same rfl rfl rfl (by rw [hpos]; rfl))
    | short now hpos _ => exact .inl (publishers_same rfl rfl rfl (by rw [hpos]; rfl))
    | read frame hpos => exact .inl (publishers_same rfl rfl rfl (by rw [hpos]; rfl))
    | store frame n hpos => exact .inl (publishers_same rfl rfl rfl (by rw [hpos]; rfl))
    | cut now frame hpos _ _ =>
      -- the count comes before the first callback, and the callbacks do not see it
      refine .inr ⟨.publish i frame, ?_⟩
      have hi : s.publishers.inFlight i = none := congrArg HandlerPosition.inFlight hpos
      rw [Publishers.step, hi, publishers_update s { s.setHandler i _ with dispatched := _ } rfl]
      rfl
    | call frame k cb hpos hcb =>
      refine .inr ⟨.next i, ?_⟩
      have hi : s.publishers.inFlight i = some (frame, k) :=
        congrArg HandlerPosition.inFlight hpos
      obtain ⟨hk, _⟩ := List.getElem?_eq_some_iff.mp hcb
      rw [Publishers.step, hi]
      dsimp only
      rw [if_pos hk, publishers_update s { s.setHandler i _ with world := _, told := _ } rfl]
      rfl
    | notified frame k hpos hend =>
      refine .inr ⟨.next i, ?_⟩
      have hi : s.publishers.inFlight i = some (frame, k) :=
        congrArg HandlerPosition.inFlight hpos
      rw [Publishers.step, hi]
      dsimp only
      rw [if_neg (not_lt.mpr hend), publishers_update s (s.setHandler i _) rfl]
      rfl

/-- Every callback is behind the dispatches of a handler by one frame at most. -/
theorem told_run {world : W} {es : List (LiveEvent ι R)}
    (hrun : Machine.run (step o callbacks) (init world) es = some s) (i : ι) {k : ℕ}
    (hk : k < callbacks.length) :
    toldBy i k s.told ++ owed (s.handlers i).position.inFlight k = framesFrom i s.dispatched := by
  obtain ⟨xs, hxs⟩ := Machine.run_stutter (I := fun _ => True) (p := publishers)
    (fun _ _ _ _ hstep => ⟨trivial, publishers_step (step_of_eq_some hstep)⟩) trivial hrun
  exact Publishers.toldBy_append_owed hxs i hk

end Callbacks

/-! ## The counter -/

end LiveServer

/-- What a handler has read of the counter. -/
def HandlerPosition.held : HandlerPosition R → Option ℕ
  | .counting _ n => some n
  | _ => none

/-- Whether the frame in dispatch is still to be counted. -/
def HandlerPosition.uncounted : HandlerPosition R → ℕ
  | .count _ => 1
  | .counting _ _ => 1
  | _ => 0

/-- The steps of `total_frames_received += 1`. -/
def LiveEvent.access : LiveEvent ι R → Option (Access ι)
  | .handler i .read => some (.read i)
  | .handler i .store => some (.store i)
  | _ => none

theorem sum_update_add {κ α : Type*} [DecidableEq κ] [Fintype κ] (g : α → ℕ) (f : κ → α) (i : κ)
    (a : α) : ∑ j, g (Function.update f i a j) + g (f i) = ∑ j, g (f j) + g a := by
  have hrest : ∑ j ∈ Finset.univ.erase i, g (Function.update f i a j) =
      ∑ j ∈ Finset.univ.erase i, g (f j) := by
    refine Finset.sum_congr rfl fun j hj => ?_
    rw [Function.update_of_ne (Finset.ne_of_mem_erase hj)]
  rw [← Finset.sum_erase_add _ _ (Finset.mem_univ i), hrest, Function.update_self,
    ← Finset.sum_erase_add _ (fun j => g (f j)) (Finset.mem_univ i)]
  exact Nat.add_right_comm _ _ _

namespace LiveServer

def counter (s : LiveServer ι R W) : Counter ι :=
  ⟨s.totalFramesReceived, fun i => (s.handlers i).position.held⟩

section Count

variable {o : ByteOrder} {callbacks : List (Callback PyError W (CANFrame R))}
  {s s' : LiveServer ι R W} {i : ι} {next : Handler R}

omit [PyFloat R] in
theorem counter_update (s s' : LiveServer ι R W)
    (hs : s'.handlers = Function.update s.handlers i next) :
    s'.counter =
      ⟨s'.totalFramesReceived, Function.update s.counter.held i next.position.held⟩ := by
  have hheld := Function.comp_update (fun h : Handler R => h.position.held) s.handlers i next
  rw [← hs] at hheld
  exact congrArg (Counter.mk s'.totalFramesReceived) hheld

omit [PyFloat R] in
/-- A step of a handler that is not in its addition. -/
theorem counter_same (hs : s'.handlers = Function.update s.handlers i next)
    (htotal : s'.totalFramesReceived = s.totalFramesReceived)
    (hold : (s.handlers i).position.held = none) (hnext : next.position.held = none) :
    s'.counter = s.counter := by
  have hsame : next.position.held = s.counter.held i := hnext.trans hold.symm
  rw [counter_update s s' hs, htotal, hsame, Function.update_eq_self]
  rfl

theorem counter_other {e : LiveEvent ι R} (hstep : Step o callbacks s e s')
    (he : e.access = none) : s'.counter = s.counter := by
  cases hstep with
  | start _ => rfl
  | started _ => rfl
  | stop => rfl
  | listener _ _ _ _ _ _ => rfl
  | accepted k i hk hi => exact counter_same rfl rfl (by rw [hi]; rfl) rfl
  | handler i e s' h =>
    cases h with
    | test hpos =>
      refine counter_same rfl rfl (by rw [hpos]; rfl) ?_
      cases s.running <;> rfl
    | recv chunk hpos _ _ => exact counter_same rfl rfl (by rw [hpos]; rfl) rfl
    | eof hpos => exact counter_same rfl rfl (by rw [hpos]; rfl) rfl
    | cut now frame hpos _ _ => exact counter_same rfl rfl (by rw [hpos]; rfl) rfl
    | short now hpos _ => exact counter_same rfl rfl (by rw [hpos]; rfl) rfl
    | call frame k cb hpos _ => exact counter_same rfl rfl (by rw [hpos]; rfl) rfl
    | notified frame k hpos _ => exact counter_same rfl rfl (by rw [hpos]; rfl) rfl
    | read frame hpos => cases he
    | store frame n hpos => cases he

theorem counter_step {e : LiveEvent ι R} {a : Access ι} (hstep : Step o callbacks s e s')
    (he : e.access = some a) : s.counter.step a = some s'.counter := by
  cases hstep with
  | start _ => cases he
  | started _ => cases he
  | stop => cases he
  | listener _ _ _ _ _ _ => cases he
  | accepted k i hk hi => cases he
  | handler i e s' h =>
    cases h with
    | read frame hpos =>
      obtain rfl := Option.some.inj he
      rw [counter_update s (s.setHandler i _) rfl]
      rfl
    | store frame n hpos =>
      obtain rfl := Option.some.inj he
      have hheld : s.counter.held i = some n := congrArg HandlerPosition.held hpos
      have hnext := counter_update s { s.setHandler i ⟨(s.handlers i).buffer, .notify frame 0⟩ with
        totalFramesReceived := n + 1 } rfl
      rw [Counter.step, hheld, hnext]
      rfl
    | test hpos => cases he
    | recv chunk hpos _ _ => cases he
    | eof hpos => cases he
    | cut now frame hpos _ _ => cases he
    | short now hpos _ => cases he
    | call frame k cb hpos _ => cases he
    | notified frame k hpos _ => cases he

/-- The counter of the server is an unlocked counter of its handlers. -/
theorem counter_run {world : W} {es : List (LiveEvent ι R)}
    (hrun : Machine.run (step o callbacks) (init world) es = some s) :
    Machine.run Counter.step Counter.init (es.filterMap LiveEvent.access) = some s.counter :=
  Machine.run_part (p := counter) (a := LiveEvent.access)
    (fun _ _ _ _ hstep he => counter_step (step_of_eq_some hstep) he)
    (fun _ _ _ hstep he => counter_other (step_of_eq_some hstep) he) hrun

/-- The frames that are dispatched and still to be counted. -/
def uncounted [Fintype ι] (s : LiveServer ι R W) : ℕ :=
  ∑ i, (s.handlers i).position.uncounted

omit [PyFloat R] in
theorem uncounted_update [Fintype ι] (s s' : LiveServer ι R W)
    (hs : s'.handlers = Function.update s.handlers i next) :
    s'.uncounted + (s.handlers i).position.uncounted =
      s.uncounted + next.position.uncounted := by
  have hsum := sum_update_add (fun h : Handler R => h.position.uncounted) s.handlers i next
  rwa [← hs] at hsum

omit [PyFloat R] in
theorem uncounted_same [Fintype ι] (hs : s'.handlers = Function.update s.handlers i next)
    (hsame : next.position.uncounted = (s.handlers i).position.uncounted) :
    s'.uncounted = s.uncounted := by
  have hsum := uncounted_update s s' hs
  rw [hsame] at hsum
  exact Nat.add_right_cancel hsum

/-- A dispatch counts its frame once. -/
theorem additions_step [Fintype ι] {pre : List (LiveEvent ι R)} {e : LiveEvent ι R}
    (h : Counter.additions (pre.filterMap LiveEvent.access) + s.uncounted = s.dispatched.length)
    (hstep : Step o callbacks s e s') :
    Counter.additions ((pre ++ [e]).filterMap LiveEvent.access) + s'.uncounted =
      s'.dispatched.length := by
  rw [List.filterMap_append, Counter.additions_append]
  cases hstep with
  | start _ => exact h
  | started _ => exact h
  | stop => exact h
  | listener _ _ _ _ _ _ => exact h
  | accepted k i hk hi =>
    rw [uncounted_same rfl (by rw [hi]; rfl)]
    exact h
  | handler i e s' hhandles =>
    cases hhandles with
    | test hpos =>
      rw [uncounted_same rfl (by rw [hpos]; cases s.running <;> rfl)]
      exact h
    | recv chunk hpos _ _ =>
      rw [uncounted_same rfl (by rw [hpos]; rfl)]
      exact h
    | eof hpos =>
      rw [uncounted_same rfl (by rw [hpos]; rfl)]
      exact h
    | short now hpos _ =>
      rw [uncounted_same rfl (by rw [hpos]; rfl)]
      exact h
    | read frame hpos =>
      rw [uncounted_same rfl (by rw [hpos]; rfl)]
      exact h
    | call frame k cb hpos _ =>
      rw [uncounted_same rfl (by rw [hpos]; rfl)]
      exact h
    | notified frame k hpos _ =>
      rw [uncounted_same rfl (by rw [hpos]; rfl)]
      exact h
    | cut now frame hpos _ _ =>
      -- one more frame is dispatched, and still to be counted
      have hsum := uncounted_update s
        { s.setHandler i ⟨(s.handlers i).buffer.drop ipcFrameSize, .count frame⟩ with
          dispatched := s.dispatched ++ [(i, frame)] } rfl
      rw [hpos] at hsum
      rw [List.length_append, ← h, Nat.add_assoc, Nat.add_assoc]
      refine congrArg (Counter.additions _ + ·) ?_
      exact (Nat.zero_add _).trans hsum
    | store frame n hpos =>
      -- the frame of the handler is counted, even if the counter has lost others
      have hsum := uncounted_update s { s.setHandler i ⟨(s.handlers i).buffer, .notify frame 0⟩ with
        totalFramesReceived := n + 1 } rfl
      rw [hpos] at hsum
      refine Eq.trans ?_ h
      rw [Nat.add_assoc]
      refine congrArg (Counter.additions _ + ·) ?_
      exact (Nat.add_comm 1 _).trans hsum

theorem additions_run [Fintype ι] {world : W} {es : List (LiveEvent ι R)}
    (hrun : Machine.run (step o callbacks) (init world) es = some s) :
    Counter.additions (es.filterMap LiveEvent.access) + s.uncounted = s.dispatched.length := by
  have hstart : 0 + (init world : LiveServer ι R W).uncounted = 0 :=
    (Nat.zero_add _).trans Finset.sum_const_zero
  exact Machine.run_inv
    (I := fun es s => Counter.additions (es.filterMap LiveEvent.access) + s.uncounted =
      s.dispatched.length) hstart
    (fun _ _ _ _ h hstep => additions_step h (step_of_eq_some hstep)) hrun

end Count

/-- **The life of the server.** In every interleaving of its handlers, its listeners and the
calls of `start` and `stop`:

- the frames dispatched for a connection are the decodings of the first records received from
  it, in order, and of all complete ones unless the handler is in its inner loop. So no record
  that has arrived is lost, whenever the server is stopped;
- in each dispatch every callback is called once, in order: callback number `k` was called
  with all frames dispatched for the connection, but for the one in dispatch if the call is
  still to come;
- `total_frames_received` is at most the number of frames that have been counted, and equal to
  it if and only if no handler has stored between the read and the store of another one. -/
theorem live_server_exact [Fintype ι] (o : ByteOrder)
    (callbacks : List (Callback PyError W (CANFrame R))) (world : W) (es : List (LiveEvent ι R))
    (s : LiveServer ι R W)
    (hrun : Machine.run (step o callbacks) (init world) es = some s) :
    (∀ i,
      let received := receivedBy i (es.filterMap LiveEvent.coarse)
      let frames := framesFrom i s.dispatched
      List.Forall₂ (DecodesTo o) ((blocks 24 received).take frames.length) frames ∧
        ((s.handlers i).position.coarse = .recv →
          List.Forall₂ (DecodesTo o) (blocks 24 received) frames) ∧
        ∀ k < callbacks.length,
          toldBy i k s.told ++ owed (s.handlers i).position.inFlight k = frames) ∧
      s.totalFramesReceived + s.uncounted ≤ s.dispatched.length ∧
      (s.totalFramesReceived + s.uncounted = s.dispatched.length ↔
        ¬ Counter.Disturbed (es.filterMap LiveEvent.access)) := by
  have hservice := reassembled_run (toService_run hrun)
  have hcounter := counter_run hrun
  have hadditions := additions_run hrun
  have hle : s.totalFramesReceived ≤ _ := Counter.value_le hcounter
  have heq : s.totalFramesReceived = _ ↔ _ := Counter.value_eq_iff hcounter
  refine ⟨?_, by omega, ?_⟩
  · intro i
    obtain ⟨raws, hraws⟩ := hservice.clients i
    refine ⟨hraws.blocks.1, ?_, fun k hk => told_run hrun i hk⟩
    intro hpos
    have hwaiting : (s.toService.clients i).position ≠ .drain := by
      show (s.handlers i).client.position ≠ .drain
      unfold Handler.client
      split
      · exact Position.noConfusion
      · rw [hpos]
        exact Position.noConfusion
    exact (hraws.blocks_waiting hwaiting).1
  · rw [← heq, ← hadditions]
    exact Nat.add_right_cancel_iff

/-- Two connections with one record each. Both handlers read the counter before they store. -/
def lostUpdateEvents : List (LiveEvent Bool ℚ) :=
  [.start, .listener 0 (.setup true), .listener 0 .test, .accepted 0 false, .listener 0 .test,
    .accepted 0 true, .handler false .test, .handler false (.recv (List.replicate 24 1)),
    .handler false (.turn 0), .handler true .test, .handler true (.recv (List.replicate 24 2)),
    .handler true (.turn 0), .handler false .read, .handler true .read, .handler true .store,
    .stop, .handler false .store]

/-- A frame is dispatched and not counted. -/
theorem live_server_exact_lost : ∃ s : LiveServer Bool ℚ Unit,
    Machine.run (step .little []) (init ()) lostUpdateEvents = some s ∧
      s.totalFramesReceived + s.uncounted < s.dispatched.length := by
  have hsome : (Machine.run (step .little []) (init ()) lostUpdateEvents :
      Option (LiveServer Bool ℚ Unit)).isSome := by decide +kernel
  obtain ⟨s, hs⟩ := Option.isSome_iff_exists.mp hsome
  obtain ⟨_, hle, heq⟩ := live_server_exact .little [] () lostUpdateEvents s hs
  have hlost : Counter.Disturbed (lostUpdateEvents.filterMap LiveEvent.access) :=
    ⟨[], false, [.read true, .store true], [], rfl, by decide, true, by decide⟩
  exact ⟨s, hs, hle.lt_of_ne fun h => heq.mp h hlost⟩

end LiveServer

end CanSentinel
