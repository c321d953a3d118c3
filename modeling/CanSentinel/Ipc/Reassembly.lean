import CanSentinel.Lib.Framing
import CanSentinel.Ipc.Server

/-!
# Stream reassembly

However `recv` cuts the streams of the clients into chunks, and however the
threads interleave, the frames dispatched for a client are the decodings of the
consecutive 24-byte records of what that client has sent.

- `receivedBy i es`: the bytes client `i` has sent in the events `es`.
- `Reassembled`: the invariant. What a thread has received is the records it has
  dispatched followed by its buffer; the counter and the subscribers agree with
  the log of dispatches.
- `streams_reassembled`: what the invariant says about every reachable state.
-/

namespace CanSentinel

open Framing

variable {ι R W : Type} [DecidableEq ι] [PyFloat R]

/-- The bytes received on the connection of client `i`. -/
def receivedBy (i : ι) (es : List (Event ι R)) : Bytes :=
  es.flatMap fun e => match e with
    | .recv j chunk => if j = i then chunk else []
    | _ => []

/-- The frames dispatched for client `i`, in order. -/
def framesFrom (i : ι) (dispatched : List (ι × CANFrame R)) : List (CANFrame R) :=
  (dispatched.filter fun d => d.1 = i).map Prod.snd

/-- A frame is what `unpack_binary_frame` makes of a record, at some clock
reading. -/
def DecodesTo (o : ByteOrder) (raw : Bytes) (frame : CANFrame R) : Prop :=
  ∃ now, unpackBinaryFrame o now raw = .ok frame

omit [PyFloat R] in
theorem receivedBy_concat (i : ι) (es : List (Event ι R)) (e : Event ι R) :
    receivedBy i (es ++ [e]) = receivedBy i es ++ match e with
      | .recv j chunk => if j = i then chunk else []
      | _ => [] := by
  simp [receivedBy, List.flatMap_append]

omit [PyFloat R] in
theorem framesFrom_concat (i j : ι) (dispatched : List (ι × CANFrame R)) (frame : CANFrame R) :
    framesFrom i (dispatched ++ [(j, frame)]) =
      framesFrom i dispatched ++ if j = i then [frame] else [] := by
  by_cases h : j = i
  · simp [framesFrom, List.filter_append, h]
  · simp [framesFrom, List.filter_append, h]

/-- What one thread has done with the bytes it has received: it has dispatched the
records `raws`, the rest is in its buffer, and less than a record is left there
unless the thread is in its inner loop. -/
structure ClientInv (o : ByteOrder) (received : Bytes) (frames : List (CANFrame R)) (c : Client)
    (raws : List Bytes) : Prop where
  records : ∀ raw ∈ raws, raw.length = 24
  received_eq : received = raws.flatten ++ c.buffer
  decoded : List.Forall₂ (DecodesTo o) raws frames
  waiting : c.position ≠ .drain → c.buffer.length < 24

/-- The invariant of the service. -/
structure Reassembled (o : ByteOrder) (callbacks : List (Callback PyError W (CANFrame R)))
    (es : List (Event ι R)) (s : Service ι R W) : Prop where
  clients : ∀ i, ∃ raws,
    ClientInv o (receivedBy i es) (framesFrom i s.dispatched) (s.clients i) raws
  total : s.server.totalFramesReceived = s.dispatched.length
  heard : ∀ k < callbacks.length, s.server.subs.heard k = s.dispatched.map Prod.snd

section Inv

variable {o : ByteOrder} {callbacks : List (Callback PyError W (CANFrame R))}

theorem reassembled_init (world : W) :
    Reassembled o callbacks ([] : List (Event ι R)) (Service.init world) where
  clients := by
    intro i
    refine ⟨[], ?_, rfl, .nil, fun _ => Nat.succ_pos 23⟩
    intro raw hraw
    cases hraw
  total := rfl
  heard := by
    intro k hk
    rfl

/-- A step that changes one thread and dispatches nothing. -/
theorem Reassembled.setClient {es : List (Event ι R)} {s : Service ι R W}
    (h : Reassembled o callbacks es s) {e : Event ι R} {i : ι} {c : Client}
    (hothers : ∀ j, i ≠ j → receivedBy j (es ++ [e]) = receivedBy j es)
    (hi : ∀ raws, ClientInv o (receivedBy i es) (framesFrom i s.dispatched) (s.clients i) raws →
      ClientInv o (receivedBy i (es ++ [e])) (framesFrom i s.dispatched) c raws) :
    Reassembled o callbacks (es ++ [e]) (s.setClient i c) where
  clients := by
    intro j
    obtain ⟨raws, hraws⟩ := h.clients j
    refine ⟨raws, ?_⟩
    show ClientInv o _ (framesFrom j s.dispatched) (Function.update s.clients i c j) raws
    by_cases hij : i = j
    · subst hij
      rw [Function.update_self]
      exact hi raws hraws
    · rw [Function.update_of_ne (Ne.symm hij), hothers j hij]
      exact hraws
  total := h.total
  heard := h.heard

/-- **The step.** -/
theorem Reassembled.step {es : List (Event ι R)} {s s' : Service ι R W} {e : Event ι R}
    (h : Reassembled o callbacks es s) (hstep : s.step o callbacks e = some s') :
    Reassembled o callbacks (es ++ [e]) s' := by
  rcases Service.step_cases hstep with ⟨i, chunk, rfl, hpos, hne, rfl⟩ | ⟨i, rfl, hpos, rfl⟩ |
    ⟨i, now, rfl, hpos, ⟨hlen, rfl⟩ | ⟨raw, rest, frame, hbuf, hraw, hframe, rfl⟩⟩
  · -- a chunk arrives
    refine h.setClient (fun j hij => by simp [receivedBy_concat, hij]) ?_
    intro raws hraws
    refine ⟨hraws.records, ?_, hraws.decoded, fun hdrain => absurd rfl hdrain⟩
    rw [receivedBy_concat, hraws.received_eq, List.append_assoc]
    simp
  · -- the peer closes
    refine h.setClient (fun j _ => by simp [receivedBy_concat]) ?_
    intro raws hraws
    refine ⟨hraws.records, ?_, hraws.decoded, fun _ => hraws.waiting (by simp [hpos])⟩
    rw [receivedBy_concat, List.append_nil]
    exact hraws.received_eq
  · -- less than a record is left
    refine h.setClient (fun j _ => by simp [receivedBy_concat]) ?_
    intro raws hraws
    refine ⟨hraws.records, ?_, hraws.decoded, fun _ => hlen⟩
    rw [receivedBy_concat, List.append_nil]
    exact hraws.received_eq
  · -- a record moves from the buffer to the log
    refine ⟨?_, ?_, ?_⟩
    · intro j
      obtain ⟨raws, hraws⟩ := h.clients j
      show ∃ raws, ClientInv o _ (framesFrom j (s.dispatched ++ [(i, frame)]))
        (Function.update s.clients i ⟨rest, .drain⟩ j) raws
      rw [receivedBy_concat, List.append_nil, framesFrom_concat]
      by_cases hij : i = j
      · subst hij
        rw [Function.update_self, if_pos rfl]
        refine ⟨raws ++ [raw], ?_, ?_, List.rel_append hraws.decoded (.cons ⟨now, hframe⟩ .nil),
          fun hdrain => absurd rfl hdrain⟩
        · rw [List.forall_mem_append, List.forall_mem_singleton]
          exact ⟨hraws.records, hraw⟩
        · rw [hraws.received_eq, hbuf]
          simp
      · rw [Function.update_of_ne (Ne.symm hij), if_neg hij, List.append_nil]
        exact ⟨raws, hraws⟩
    · show s.server.totalFramesReceived + 1 = (s.dispatched ++ [(i, frame)]).length
      rw [h.total, List.length_append, List.length_singleton]
    · intro k hk
      show (s.server.subs.notify callbacks frame).heard k = _
      rw [Subscribers.heard_notify callbacks frame _ hk, h.heard k hk, List.map_append]
      rfl

/-- The invariant along a run. -/
theorem reassembled_run {world : W} {es : List (Event ι R)} {s : Service ι R W}
    (hrun : Machine.run (Service.step o callbacks) (Service.init world) es = some s) :
    Reassembled o callbacks es s :=
  Machine.run_inv (reassembled_init world) (fun _ _ _ _ h hstep => h.step hstep) hrun

end Inv

/-! ## Reachable states -/

omit [DecidableEq ι] in
/-- What a thread has dispatched, read off the bytes it has received. -/
theorem ClientInv.blocks {o : ByteOrder} {received : Bytes} {frames : List (CANFrame R)}
    {c : Client} {raws : List Bytes} (h : ClientInv o received frames c raws) :
    List.Forall₂ (DecodesTo o) ((blocks 24 received).take frames.length) frames ∧
      c.buffer = received.drop (24 * frames.length) := by
  have hlen : raws.length = frames.length := h.decoded.length_eq
  have hflat : raws.flatten.length = 24 * frames.length := by
    rw [List.length_flatten, List.map_congr_left h.records, List.map_const', List.sum_replicate,
      hlen, smul_eq_mul, Nat.mul_comm]
  constructor
  · rw [h.received_eq, blocks_flatten_append (by decide) h.records, List.take_left' hlen]
    exact h.decoded
  · rw [h.received_eq, List.drop_left' hflat]

/-- A thread outside its inner loop has dispatched every complete record. -/
theorem ClientInv.blocks_waiting {o : ByteOrder} {received : Bytes} {frames : List (CANFrame R)}
    {c : Client} {raws : List Bytes} (h : ClientInv o received frames c raws)
    (hpos : c.position ≠ .drain) :
    List.Forall₂ (DecodesTo o) (Framing.blocks 24 received) frames ∧
      c.buffer = residue 24 received ∧ c.buffer.length < 24 := by
  obtain ⟨hblocks, hresidue⟩ := blocks_unique (by decide) h.records (h.waiting hpos)
  rw [h.received_eq, hblocks, hresidue]
  exact ⟨h.decoded, rfl, h.waiting hpos⟩

omit [PyFloat R] in
theorem sum_framesFrom [Fintype ι] (dispatched : List (ι × CANFrame R)) :
    ∑ i, (framesFrom i dispatched).length = dispatched.length := by
  induction dispatched using List.reverseRecOn with
  | nil => exact Finset.sum_const_zero
  | append_singleton dispatched d ih =>
    obtain ⟨j, frame⟩ := d
    have hone : ∀ i, (if j = i then [frame] else []).length = if j = i then 1 else 0 := by
      intro i
      by_cases hji : j = i
      · rw [if_pos hji, if_pos hji, List.length_singleton]
      · rw [if_neg hji, if_neg hji, List.length_nil]
    calc ∑ i, (framesFrom i (dispatched ++ [(j, frame)])).length
        = ∑ i, ((framesFrom i dispatched).length + if j = i then 1 else 0) := by
          refine Finset.sum_congr rfl ?_
          intro i _
          rw [framesFrom_concat, List.length_append, hone]
      _ = (dispatched ++ [(j, frame)]).length := by
          rw [Finset.sum_add_distrib, ih, Finset.sum_ite_eq, if_pos (Finset.mem_univ j),
            List.length_append, List.length_singleton]

/-- **Reassembly is independent of chunking and of other clients.** In every state
the service can reach:

- the frames dispatched for a client are the decodings of the first records of the
  bytes received from it, in order, and its buffer holds all bytes after them;
- a thread that is not in its inner loop has dispatched all complete records and
  holds less than one;
- the counter is the sum of the clients' counts;
- every subscriber was called once for each dispatched frame, in that order. -/
theorem streams_reassembled [Fintype ι] (o : ByteOrder)
    (callbacks : List (Callback PyError W (CANFrame R))) (world : W) (es : List (Event ι R))
    (s : Service ι R W)
    (hrun : Machine.run (Service.step o callbacks) (Service.init world) es = some s) :
    (∀ i,
      let received := receivedBy i es
      let frames := framesFrom i s.dispatched
      List.Forall₂ (DecodesTo o) ((blocks 24 received).take frames.length) frames ∧
        (s.clients i).buffer = received.drop (24 * frames.length) ∧
        ((s.clients i).position ≠ .drain →
          List.Forall₂ (DecodesTo o) (blocks 24 received) frames ∧
            (s.clients i).buffer = residue 24 received ∧ (s.clients i).buffer.length < 24)) ∧
      s.server.totalFramesReceived = ∑ i, (framesFrom i s.dispatched).length ∧
      ((∀ i, (s.clients i).position ≠ .drain) →
        s.server.totalFramesReceived = ∑ i, (blocks 24 (receivedBy i es)).length) ∧
      ∀ k < callbacks.length, s.server.subs.heard k = s.dispatched.map Prod.snd := by
  have h := reassembled_run hrun
  refine ⟨?_, ?_, ?_, h.heard⟩
  · intro i
    obtain ⟨raws, hraws⟩ := h.clients i
    exact ⟨hraws.blocks.1, hraws.blocks.2, hraws.blocks_waiting⟩
  · rw [sum_framesFrom, h.total]
  · intro hwaiting
    rw [h.total, ← sum_framesFrom]
    refine Finset.sum_congr rfl ?_
    intro i _
    obtain ⟨raws, hraws⟩ := h.clients i
    exact (hraws.blocks_waiting (hwaiting i)).1.length_eq.symm

/-- Two clients: one record cut in two, and half a record, interleaved. -/
def interleavedEvents : List (Event (Fin 2) ℚ) :=
  [.recv 0 (List.replicate 20 1), .recv 1 (List.replicate 12 2), .turn 0 0, .turn 1 0,
    .recv 0 (List.replicate 4 3), .turn 0 0, .turn 0 0]

theorem streams_reassembled_interleaved :
    ∃ s : Service (Fin 2) ℚ Unit,
      Machine.run (Service.step .little []) (Service.init ()) interleavedEvents = some s ∧
        s.server.totalFramesReceived = ∑ i, (framesFrom i s.dispatched).length := by
  have hsome : (Machine.run (Service.step .little []) (Service.init ())
      interleavedEvents : Option (Service (Fin 2) ℚ Unit)).isSome := by decide +kernel
  obtain ⟨s, hs⟩ := Option.isSome_iff_exists.mp hsome
  exact ⟨s, hs, (streams_reassembled .little [] () interleavedEvents s hs).2.1⟩

end CanSentinel
