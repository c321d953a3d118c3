import CanSentinel.Ipc.Reassembly

/-!
# The life of the IPC server (`ipc/ipc_server.py`)

`Ipc/Server.lean` interleaves the handlers while `running` stays true, and takes a dispatch as
one step. Here the server is started and stopped, connections come from the threads of
`_server_loop`, and a dispatch has all its steps: `total_frames_received += 1` is a read
and a store, and every callback is called on its own. No lock is held anywhere.

- `LiveServer.step`: the interleaving. What the sockets do is left to the environment: an
  `accept` may return a connection, time out or raise, whatever `stop` has closed.
- `LiveServer.step_of_eq_some`: inversion of a step.
- `LiveServer.toService_run`: the handlers and the dispatches are those of `Ipc/Server.lean`.
-/

namespace CanSentinel

variable {ι R W : Type} [DecidableEq ι] [PyFloat R]

/-- Where a thread of `_server_loop` stands. -/
inductive ListenerPosition where
  /-- the socket is created and bound -/
  | setup
  /-- at `while self.running` -/
  | test
  | accept
  | ended
deriving DecidableEq

/-- What happens in such a thread, but for a connection. -/
inductive ListenerEvent where
  /-- the socket is bound, or the operating system refuses -/
  | setup (ok : Bool)
  | test
  | timeout
  | error

/-- `_server_loop`. An error while binding escapes the thread; one in `accept` ends its loop. -/
def ListenerPosition.step (running : Bool) :
    ListenerPosition → ListenerEvent → Option ListenerPosition
  | .setup, .setup ok => some (if ok then .test else .ended)
  | .test, .test => some (if running then .accept else .ended)
  | .accept, .timeout => some .test
  | .accept, .error => some .ended
  | _, _ => none

/-- Where a thread of `_handle_client` stands. -/
inductive HandlerPosition (R : Type) where
  /-- there is no such connection yet -/
  | absent
  /-- at `while self.running` -/
  | test
  | recv
  /-- at `while len(buffer) >= IPC_FRAME_SIZE` -/
  | drain
  /-- in `_dispatch_frame`: the counter is read next -/
  | count (frame : CANFrame R)
  /-- the counter was `n`; `n + 1` is stored next -/
  | counting (frame : CANFrame R) (n : ℕ)
  /-- callback number `k` is called next -/
  | notify (frame : CANFrame R) (k : ℕ)
  | closed

/-- A thread of `_handle_client`. -/
structure Handler (R : Type) where
  buffer : Bytes
  position : HandlerPosition R

/-- What a handler does next. -/
inductive HandlerEvent (R : Type) where
  | test
  | recv (chunk : Bytes)
  /-- `recv` returns nothing, or raises -/
  | eof
  /-- a turn of the inner loop, with the clock at `now` -/
  | turn (now : R)
  | read
  | store
  | notify

/-- The server with its threads. `dispatched` and `told` record the calls of
`_dispatch_frame` and of the callbacks; the program does not keep them. -/
structure LiveServer (ι R W : Type) where
  running : Bool
  totalFramesReceived : ℕ
  world : W
  listeners : List ListenerPosition
  handlers : ι → Handler R
  dispatched : List (ι × CANFrame R)
  told : List (ι × ℕ × CANFrame R)

inductive LiveEvent (ι R : Type) where
  | start
  /-- `running = False`; what else `stop` does shows in the sockets only -/
  | stop
  | listener (k : ℕ) (e : ListenerEvent)
  /-- the `accept` of a listener returns a connection -/
  | accepted (k : ℕ) (i : ι)
  | handler (i : ι) (e : HandlerEvent R)

namespace LiveServer

def init (world : W) : LiveServer ι R W := ⟨false, 0, world, [], fun _ => ⟨[], .absent⟩, [], []⟩

def setHandler (s : LiveServer ι R W) (i : ι) (h : Handler R) : LiveServer ι R W :=
  { s with handlers := Function.update s.handlers i h }

/-- One step of a handler. -/
def handle (o : ByteOrder) (callbacks : List (Callback PyError W (CANFrame R)))
    (s : LiveServer ι R W) (i : ι) (e : HandlerEvent R) : Option (LiveServer ι R W) :=
  let buffer := (s.handlers i).buffer
  match e, (s.handlers i).position with
  | .test, .test => some (s.setHandler i ⟨buffer, if s.running then .recv else .closed⟩)
  | .recv chunk, .recv =>
    if chunk ≠ [] ∧ chunk.length ≤ 4096 then some (s.setHandler i ⟨buffer ++ chunk, .drain⟩)
    else none
  | .eof, .recv => some (s.setHandler i ⟨buffer, .closed⟩)
  | .turn now, .drain =>
    if ipcFrameSize ≤ buffer.length then
      let rest := buffer.drop ipcFrameSize
      match unpackBinaryFrame o now (buffer.take ipcFrameSize) with
      | .ok frame =>
        some { s.setHandler i ⟨rest, .count frame⟩ with dispatched := s.dispatched ++ [(i, frame)] }
      | .error _ => some (s.setHandler i ⟨rest, .closed⟩)
    else some (s.setHandler i ⟨buffer, .test⟩)
  | .read, .count frame => some (s.setHandler i ⟨buffer, .counting frame s.totalFramesReceived⟩)
  | .store, .counting frame n =>
    some { s.setHandler i ⟨buffer, .notify frame 0⟩ with totalFramesReceived := n + 1 }
  | .notify, .notify frame k =>
    match callbacks[k]? with
    | some cb =>
      some { s.setHandler i ⟨buffer, .notify frame (k + 1)⟩ with
        -- what the callback raises is printed
        world := (cb frame s.world).2
        told := s.told ++ [(i, k, frame)] }
    | none => some (s.setHandler i ⟨buffer, .drain⟩)
  | _, _ => none

/-- One step of one thread; `none` when the thread is not at that point. -/
def step (o : ByteOrder) (callbacks : List (Callback PyError W (CANFrame R)))
    (s : LiveServer ι R W) : LiveEvent ι R → Option (LiveServer ι R W)
  | .start =>
    if s.running then some s
    else some { s with running := true, listeners := s.listeners ++ [.setup] }
  | .stop => some { s with running := false }
  | .listener k e =>
    match s.listeners[k]? with
    | none => none
    | some p => (p.step s.running e).map fun p' => { s with listeners := s.listeners.set k p' }
  | .accepted k i =>
    match s.listeners[k]?, (s.handlers i).position with
    | some .accept, .absent =>
      some { s.setHandler i ⟨[], .test⟩ with listeners := s.listeners.set k .test }
    | _, _ => none
  | .handler i e => s.handle o callbacks i e

/-- What one step of a handler does. -/
inductive Handles (o : ByteOrder) (callbacks : List (Callback PyError W (CANFrame R)))
    (s : LiveServer ι R W) (i : ι) : HandlerEvent R → LiveServer ι R W → Prop
  | test (h : (s.handlers i).position = .test) :
      Handles o callbacks s i .test
        (s.setHandler i ⟨(s.handlers i).buffer, if s.running then .recv else .closed⟩)
  | recv (chunk : Bytes) (h : (s.handlers i).position = .recv) (hne : chunk ≠ [])
      (hlen : chunk.length ≤ 4096) :
      Handles o callbacks s i (.recv chunk)
        (s.setHandler i ⟨(s.handlers i).buffer ++ chunk, .drain⟩)
  | eof (h : (s.handlers i).position = .recv) :
      Handles o callbacks s i .eof (s.setHandler i ⟨(s.handlers i).buffer, .closed⟩)
  | cut (now : R) (frame : CANFrame R) (h : (s.handlers i).position = .drain)
      (hlen : ipcFrameSize ≤ (s.handlers i).buffer.length)
      (hframe : unpackBinaryFrame o now ((s.handlers i).buffer.take ipcFrameSize) = .ok frame) :
      Handles o callbacks s i (.turn now)
        { s.setHandler i ⟨(s.handlers i).buffer.drop ipcFrameSize, .count frame⟩ with
          dispatched := s.dispatched ++ [(i, frame)] }
  | short (now : R) (h : (s.handlers i).position = .drain)
      (hlen : (s.handlers i).buffer.length < ipcFrameSize) :
      Handles o callbacks s i (.turn now) (s.setHandler i ⟨(s.handlers i).buffer, .test⟩)
  | read (frame : CANFrame R) (h : (s.handlers i).position = .count frame) :
      Handles o callbacks s i .read
        (s.setHandler i ⟨(s.handlers i).buffer, .counting frame s.totalFramesReceived⟩)
  | store (frame : CANFrame R) (n : ℕ) (h : (s.handlers i).position = .counting frame n) :
      Handles o callbacks s i .store
        { s.setHandler i ⟨(s.handlers i).buffer, .notify frame 0⟩ with
          totalFramesReceived := n + 1 }
  | call (frame : CANFrame R) (k : ℕ) (cb : Callback PyError W (CANFrame R))
      (h : (s.handlers i).position = .notify frame k) (hcb : callbacks[k]? = some cb) :
      Handles o callbacks s i .notify
        { s.setHandler i ⟨(s.handlers i).buffer, .notify frame (k + 1)⟩ with
          world := (cb frame s.world).2
          told := s.told ++ [(i, k, frame)] }
  | notified (frame : CANFrame R) (k : ℕ) (h : (s.handlers i).position = .notify frame k)
      (hend : callbacks.length ≤ k) :
      Handles o callbacks s i .notify (s.setHandler i ⟨(s.handlers i).buffer, .drain⟩)

/-- What one step does. -/
inductive Step (o : ByteOrder) (callbacks : List (Callback PyError W (CANFrame R)))
    (s : LiveServer ι R W) : LiveEvent ι R → LiveServer ι R W → Prop
  | start (h : s.running = false) :
      Step o callbacks s .start { s with running := true, listeners := s.listeners ++ [.setup] }
  | started (h : s.running = true) : Step o callbacks s .start s
  | stop : Step o callbacks s .stop { s with running := false }
  | listener (k : ℕ) (e : ListenerEvent) (p p' : ListenerPosition) (hp : s.listeners[k]? = some p)
      (hmove : p.step s.running e = some p') :
      Step o callbacks s (.listener k e) { s with listeners := s.listeners.set k p' }
  | accepted (k : ℕ) (i : ι) (hk : s.listeners[k]? = some .accept)
      (hi : (s.handlers i).position = .absent) :
      Step o callbacks s (.accepted k i)
        { s.setHandler i ⟨[], .test⟩ with listeners := s.listeners.set k .test }
  | handler (i : ι) (e : HandlerEvent R) (s' : LiveServer ι R W)
      (h : Handles o callbacks s i e s') : Step o callbacks s (.handler i e) s'

section Step

variable {o : ByteOrder} {callbacks : List (Callback PyError W (CANFrame R))}
  {s s' : LiveServer ι R W}

theorem handles_of_eq_some {i : ι} {e : HandlerEvent R}
    (h : s.handle o callbacks i e = some s') : Handles o callbacks s i e s' := by
  unfold handle at h
  dsimp only at h
  split at h
  next hpos =>
    cases h
    exact .test hpos
  next chunk hpos =>
    by_cases hguard : chunk ≠ [] ∧ chunk.length ≤ 4096
    · rw [if_pos hguard] at h
      cases h
      exact .recv chunk hpos hguard.1 hguard.2
    · rw [if_neg hguard] at h
      cases h
  next hpos =>
    cases h
    exact .eof hpos
  next now hpos =>
    by_cases hlen : ipcFrameSize ≤ (s.handlers i).buffer.length
    · rw [if_pos hlen] at h
      have hraw : ((s.handlers i).buffer.take ipcFrameSize).length = 24 := by
        rw [List.length_take]
        exact min_eq_left hlen
      -- 24 bytes always decode
      rw [unpackBinaryFrame_of_length o now hraw] at h
      cases h
      exact .cut now _ hpos hlen (unpackBinaryFrame_of_length o now hraw)
    · rw [if_neg hlen] at h
      cases h
      exact .short now hpos (not_le.mp hlen)
  next frame hpos =>
    cases h
    exact .read frame hpos
  next frame n hpos =>
    cases h
    exact .store frame n hpos
  next frame k hpos =>
    cases hcb : callbacks[k]? with
    | some cb =>
      rw [hcb] at h
      cases h
      exact .call frame k cb hpos hcb
    | none =>
      rw [hcb] at h
      cases h
      exact .notified frame k hpos (List.getElem?_eq_none_iff.mp hcb)
  next => cases h

/-- **Inversion of a step.** -/
theorem step_of_eq_some {e : LiveEvent ι R} (h : s.step o callbacks e = some s') :
    Step o callbacks s e s' := by
  cases e with
  | start =>
    rw [step] at h
    cases hrunning : s.running with
    | true =>
      rw [hrunning, if_pos rfl] at h
      cases h
      exact .started hrunning
    | false =>
      rw [hrunning, if_neg Bool.false_ne_true] at h
      cases h
      exact .start hrunning
  | stop =>
    cases h
    exact .stop
  | listener k e =>
    rw [step] at h
    cases hp : s.listeners[k]? with
    | none =>
      rw [hp] at h
      cases h
    | some p =>
      rw [hp] at h
      obtain ⟨p', hmove, rfl⟩ := Option.map_eq_some_iff.mp h
      exact .listener k e p p' hp hmove
  | accepted k i =>
    rw [step] at h
    split at h
    next hk hi =>
      cases h
      exact .accepted k i hk hi
    next => cases h
  | handler i e => exact .handler i e s' (handles_of_eq_some h)

end Step

/-! ## The handlers of `Ipc/Server.lean` -/

end LiveServer

/-- Where the coarse handler stands. One that has ended, or has not begun, is in its `recv`
for ever. -/
def HandlerPosition.coarse : HandlerPosition R → Position
  | .drain | .count _ | .counting _ _ | .notify _ _ => .drain
  | _ => .recv

def Handler.client (h : Handler R) : Client :=
  match h.position with
  | .absent => ⟨[], .recv⟩
  | p => ⟨h.buffer, p.coarse⟩

/-- A dispatch is the turn that begins it. -/
def LiveEvent.coarse : LiveEvent ι R → Option (Event ι R)
  | .handler i (.recv chunk) => some (.recv i chunk)
  | .handler i (.turn now) => some (.turn i now)
  | _ => none

omit [PyFloat R] in
theorem Handler.client_of_ne {h : Handler R} (hpos : ∀ b, h ≠ ⟨b, .absent⟩) :
    h.client = ⟨h.buffer, h.position.coarse⟩ := by
  obtain ⟨buffer, position⟩ := h
  cases position with
  | absent => exact absurd rfl (hpos buffer)
  | _ => rfl

namespace LiveServer

/-- The service, without its callbacks. -/
def toService (s : LiveServer ι R W) : Service ι R Unit :=
  ⟨⟨s.dispatched.length, ⟨(), []⟩⟩, fun i => (s.handlers i).client, s.dispatched⟩

section Forward

variable {o : ByteOrder} {callbacks : List (Callback PyError W (CANFrame R))}
  {s : Service ι R W} {i : ι} {buffer : Bytes}

theorem service_recv (hc : s.clients i = ⟨buffer, .recv⟩) {chunk : Bytes} (hne : chunk ≠ [])
    (hlen : chunk.length ≤ 4096) : s.step o callbacks (.recv i chunk) =
      some (s.setClient i ⟨buffer ++ chunk, .drain⟩) := by
  unfold Service.step
  simp only [hc]
  exact if_pos ⟨trivial, hne, hlen⟩

theorem service_cut (hc : s.clients i = ⟨buffer, .drain⟩) (hlen : ipcFrameSize ≤ buffer.length)
    {now : R} {frame : CANFrame R}
    (hframe : unpackBinaryFrame o now (buffer.take ipcFrameSize) = .ok frame) :
    s.step o callbacks (.turn i now) =
      some { s.setClient i ⟨buffer.drop ipcFrameSize, .drain⟩ with
        server := s.server.dispatchFrame callbacks frame
        dispatched := s.dispatched ++ [(i, frame)] } := by
  unfold Service.step
  simp only [hc]
  rw [if_pos trivial, if_pos hlen, hframe]

theorem service_short (hc : s.clients i = ⟨buffer, .drain⟩)
    (hlen : buffer.length < ipcFrameSize) (now : R) :
    s.step o callbacks (.turn i now) = some (s.setClient i ⟨buffer, .recv⟩) := by
  unfold Service.step
  simp only [hc]
  rw [if_pos trivial, if_neg (not_le.mpr hlen)]

end Forward

section Coarse

variable {o : ByteOrder} {callbacks : List (Callback PyError W (CANFrame R))}
  {s s' : LiveServer ι R W} {i : ι} {h : Handler R}

omit [PyFloat R] in
/-- The service after a change of one handler. -/
theorem toService_update (s s' : LiveServer ι R W) (hs : s'.handlers = Function.update s.handlers i h) :
    s'.toService = ⟨⟨s'.dispatched.length, ⟨(), []⟩⟩,
      Function.update s.toService.clients i h.client, s'.dispatched⟩ := by
  have hclients := Function.comp_update Handler.client s.handlers i h
  rw [← hs] at hclients
  exact congrArg (fun clients => (⟨_, clients, _⟩ : Service ι R Unit)) hclients

omit [PyFloat R] in
/-- A change that the coarse service does not see. -/
theorem toService_same (hs : s'.handlers = Function.update s.handlers i h)
    (hdispatched : s'.dispatched = s.dispatched) (hsame : h.client = s.toService.clients i) :
    s'.toService = s.toService := by
  rw [toService_update s s' hs, hdispatched, hsame, Function.update_eq_self]
  rfl

omit [DecidableEq ι] [PyFloat R] in
theorem clients_of_position {p : HandlerPosition R} (hpos : (s.handlers i).position = p)
    (hp : p.coarse = .drain ∨ p = .recv ∨ p = .test) :
    s.toService.clients i = ⟨(s.handlers i).buffer, p.coarse⟩ := by
  rw [← hpos]
  refine Handler.client_of_ne ?_
  intro b hb
  rw [hb] at hpos
  subst hpos
  rcases hp with hp | hp | hp <;> cases hp

omit [DecidableEq ι] [PyFloat R] in
/-- A move from one step of a dispatch to the next. -/
theorem client_inner {p q : HandlerPosition R} (hpos : (s.handlers i).position = p)
    (hp : p.coarse = .drain) (hq : q.coarse = .drain) :
    (⟨(s.handlers i).buffer, q⟩ : Handler R).client = s.toService.clients i := by
  rw [clients_of_position hpos (.inl hp), hp]
  cases q <;> first | rfl | cases hq

/-- The steps that the coarse service does not take. -/
theorem toService_other {e : LiveEvent ι R} (hstep : Step o callbacks s e s')
    (he : e.coarse = none) : s'.toService = s.toService := by
  cases hstep with
  | start _ => rfl
  | started _ => rfl
  | stop => rfl
  | listener _ _ _ _ _ _ => rfl
  | accepted k i hk hi =>
    refine toService_same rfl rfl ?_
    show _ = (s.handlers i).client
    rw [Handler.client, Handler.client, hi]
    rfl
  | handler i e s' h =>
    cases h with
    | recv chunk hpos hne hlen => cases he
    | cut now frame hpos hlen hframe => cases he
    | short now hpos hlen => cases he
    | test hpos =>
      refine toService_same rfl rfl ?_
      rw [clients_of_position hpos (.inr (.inr rfl))]
      cases s.running <;> rfl
    | eof hpos =>
      refine toService_same rfl rfl ?_
      rw [clients_of_position hpos (.inr (.inl rfl))]
      rfl
    | read frame hpos => exact toService_same rfl rfl (client_inner hpos rfl rfl)
    | store frame n hpos => exact toService_same rfl rfl (client_inner hpos rfl rfl)
    | call frame k cb hpos hcb => exact toService_same rfl rfl (client_inner hpos rfl rfl)
    | notified frame k hpos hend => exact toService_same rfl rfl (client_inner hpos rfl rfl)

/-- The steps that it takes. -/
theorem toService_step {e : LiveEvent ι R} {e' : Event ι R} (hstep : Step o callbacks s e s')
    (he : e.coarse = some e') : s.toService.step o [] e' = some s'.toService := by
  cases hstep with
  | start _ => cases he
  | started _ => cases he
  | stop => cases he
  | listener _ _ _ _ _ _ => cases he
  | accepted _ _ _ _ => cases he
  | handler i e s' h =>
    cases h with
    | recv chunk hpos hne hlen =>
      obtain rfl := Option.some.inj he
      have hnext := toService_update s
        (s.setHandler i ⟨(s.handlers i).buffer ++ chunk, .drain⟩) rfl
      rw [service_recv (clients_of_position hpos (.inr (.inl rfl))) hne hlen, hnext]
      rfl
    | cut now frame hpos hlen hframe =>
      obtain rfl := Option.some.inj he
      have hnext := toService_update s
        { s.setHandler i ⟨(s.handlers i).buffer.drop ipcFrameSize, .count frame⟩ with
          dispatched := s.dispatched ++ [(i, frame)] } rfl
      rw [service_cut (clients_of_position hpos (.inl rfl)) hlen hframe, hnext, List.length_append]
      rfl
    | short now hpos hlen =>
      obtain rfl := Option.some.inj he
      have hnext := toService_update s (s.setHandler i ⟨(s.handlers i).buffer, .test⟩) rfl
      rw [service_short (clients_of_position hpos (.inl rfl)) hlen now, hnext]
      rfl
    | test hpos => cases he
    | eof hpos => cases he
    | read frame hpos => cases he
    | store frame n hpos => cases he
    | call frame k cb hpos hcb => cases he
    | notified frame k hpos hend => cases he

/-- **Refinement.** The chunks and the dispatches of a run are a run of the service. -/
theorem toService_run {world : W} {es : List (LiveEvent ι R)}
    (hrun : Machine.run (step o callbacks) (init world) es = some s) :
    Machine.run (Service.step o []) (Service.init ()) (es.filterMap LiveEvent.coarse) =
      some s.toService :=
  Machine.run_part (p := toService) (a := LiveEvent.coarse)
    (fun _ _ _ _ hstep he => toService_step (step_of_eq_some hstep) he)
    (fun _ _ _ hstep he => toService_other (step_of_eq_some hstep) he) hrun

end Coarse

end LiveServer

end CanSentinel
