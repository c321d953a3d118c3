import CanSentinel.Lib.Machine
import CanSentinel.Lib.Notify
import CanSentinel.Ipc.Record

/-!
# The IPC server (`ipc/ipc_server.py`)

`CANIPCServer` runs one `_handle_client` thread per connection. A thread appends
what `recv` returns to its own buffer, then cuts complete records off the front
and dispatches each to all subscribers, then goes back to `recv`.

`Service.step` interleaves the threads: one event is a `recv` that returns a
chunk, a `recv` that returns nothing, or one turn of the inner loop. A dispatch
is part of one turn, so the dispatches of different threads do not overlap.
-/

namespace CanSentinel

variable {ι R W : Type} [DecidableEq ι] [PyFloat R]

/-- `CANIPCServer`: the counter and the subscribers. -/
structure CANIPCServer (R W : Type) where
  totalFramesReceived : ℕ
  subs : Subscribers W (CANFrame R)

/-- `CANIPCServer._dispatch_frame`. -/
def CANIPCServer.dispatchFrame (callbacks : List (Callback PyError W (CANFrame R)))
    (self : CANIPCServer R W) (frame : CANFrame R) : CANIPCServer R W where
  totalFramesReceived := self.totalFramesReceived + 1
  subs := self.subs.notify callbacks frame

/-- Where a `_handle_client` thread stands: in `recv`, in the inner loop, or
returned. -/
inductive Position where
  | recv
  | drain
  | closed
deriving DecidableEq

/-- The local state of a `_handle_client` thread. -/
structure Client where
  buffer : Bytes
  position : Position
deriving DecidableEq

/-- The server with its threads. `dispatched` records the calls of
`_dispatch_frame` and the thread that made them; the program does not keep it. -/
structure Service (ι R W : Type) where
  server : CANIPCServer R W
  clients : ι → Client
  dispatched : List (ι × CANFrame R)

/-- What a thread does next. -/
inductive Event (ι R : Type) where
  /-- `recv` returns a chunk -/
  | recv (i : ι) (chunk : Bytes)
  /-- `recv` returns no bytes: the peer has closed -/
  | eof (i : ι)
  /-- a turn of the inner loop, with the clock at `now` -/
  | turn (i : ι) (now : R)

namespace Service

/-- Fresh threads on a fresh server. -/
def init (world : W) : Service ι R W := ⟨⟨0, ⟨world, []⟩⟩, fun _ => ⟨[], .recv⟩, []⟩

/-- The local state of one thread changes. -/
def setClient (s : Service ι R W) (i : ι) (c : Client) : Service ι R W :=
  { s with clients := Function.update s.clients i c }

/-- One step of one thread, while `running` stays true; `none` when the thread is
not at that point. -/
def step (o : ByteOrder) (callbacks : List (Callback PyError W (CANFrame R)))
    (s : Service ι R W) : Event ι R → Option (Service ι R W)
  | .recv i chunk =>
    let c := s.clients i
    if c.position = .recv ∧ chunk ≠ [] ∧ chunk.length ≤ 4096 then
      some (s.setClient i ⟨c.buffer ++ chunk, .drain⟩)
    else none
  | .eof i =>
    let c := s.clients i
    if c.position = .recv then some (s.setClient i ⟨c.buffer, .closed⟩) else none
  | .turn i now =>
    let c := s.clients i
    if c.position = .drain then
      if ipcFrameSize ≤ c.buffer.length then
        let frameBytes := c.buffer.take ipcFrameSize
        let rest := c.buffer.drop ipcFrameSize
        match unpackBinaryFrame o now frameBytes with
        | .ok frame =>
          some { s.setClient i ⟨rest, .drain⟩ with
            server := s.server.dispatchFrame callbacks frame
            dispatched := s.dispatched ++ [(i, frame)] }
        -- any exception ends the thread
        | .error _ => some (s.setClient i ⟨rest, .closed⟩)
      else some (s.setClient i ⟨c.buffer, .recv⟩)
    else none

/-- **Inversion of a step**: a chunk arrives, the peer closes, a complete record is
dispatched, or the buffer holds less than one. -/
theorem step_cases {o : ByteOrder} {callbacks : List (Callback PyError W (CANFrame R))}
    {s s' : Service ι R W} {e : Event ι R} (h : s.step o callbacks e = some s') :
    (∃ i chunk, e = .recv i chunk ∧ (s.clients i).position = .recv ∧ chunk ≠ [] ∧
      s' = s.setClient i ⟨(s.clients i).buffer ++ chunk, .drain⟩) ∨
    (∃ i, e = .eof i ∧ (s.clients i).position = .recv ∧
      s' = s.setClient i ⟨(s.clients i).buffer, .closed⟩) ∨
    (∃ i now, e = .turn i now ∧ (s.clients i).position = .drain ∧
      ((s.clients i).buffer.length < 24 ∧ s' = s.setClient i ⟨(s.clients i).buffer, .recv⟩ ∨
        ∃ raw rest frame, (s.clients i).buffer = raw ++ rest ∧ raw.length = 24 ∧
          unpackBinaryFrame o now raw = .ok frame ∧
          s' = { s.setClient i ⟨rest, .drain⟩ with
            server := s.server.dispatchFrame callbacks frame
            dispatched := s.dispatched ++ [(i, frame)] })) := by
  cases e with
  | recv i chunk =>
    rw [step] at h
    by_cases hguard : (s.clients i).position = .recv ∧ chunk ≠ [] ∧ chunk.length ≤ 4096
    · rw [if_pos hguard] at h
      exact .inl ⟨i, chunk, rfl, hguard.1, hguard.2.1, (Option.some.inj h).symm⟩
    · rw [if_neg hguard] at h
      cases h
  | eof i =>
    rw [step] at h
    by_cases hpos : (s.clients i).position = .recv
    · rw [if_pos hpos] at h
      exact .inr (.inl ⟨i, rfl, hpos, (Option.some.inj h).symm⟩)
    · rw [if_neg hpos] at h
      cases h
  | turn i now =>
    rw [step] at h
    dsimp only at h
    by_cases hpos : (s.clients i).position = .drain
    · rw [if_pos hpos] at h
      refine .inr (.inr ⟨i, now, rfl, hpos, ?_⟩)
      by_cases hlen : ipcFrameSize ≤ (s.clients i).buffer.length
      · rw [if_pos hlen] at h
        have hraw : ((s.clients i).buffer.take ipcFrameSize).length = 24 := by
          rw [List.length_take]
          exact min_eq_left hlen
        -- 24 bytes always decode, so the thread never ends here
        rw [unpackBinaryFrame_of_length o now hraw] at h
        exact .inr ⟨_, _, _, (List.take_append_drop ipcFrameSize _).symm, hraw,
          unpackBinaryFrame_of_length o now hraw, (Option.some.inj h).symm⟩
      · rw [if_neg hlen] at h
        exact .inl ⟨not_le.mp hlen, (Option.some.inj h).symm⟩
    · rw [if_neg hpos] at h
      cases h

end Service

end CanSentinel
