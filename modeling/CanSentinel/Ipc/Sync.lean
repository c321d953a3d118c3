import CanSentinel.Ipc.Reassembly
import CanSentinel.Ipc.Sender

/-!
# From the senders to the server

The server cuts the stream into records of 24 bytes and never resynchronises, so what it
dispatches depends on what a sender does after a short write.

- `bridge_delivers_counted`: the bridge stops there, and the server dispatches exactly the
  frames it has counted.
- `sniffer_in_sync_iff`: the sniffer goes on. Its frames arrive unmixed exactly when fewer
  than 24 bytes are transferred from the first short write on.
-/

namespace CanSentinel.C

open Framing

/-! ## The bridge -/

theorem isFull_partialWrite (o : ByteOrder) (w : Written) :
    (w.partialWrite o).isFull 24 = true ↔ 24 ≤ w.2.transferred := decide_eq_true_iff

namespace Bridge.Delivered

variable {records : List IpcFrame} {writes : List Written} {count : ℕ}

/-- The complete writes and the last one, for the receiver. -/
theorem before_from (h : Delivered records writes count) (o : ByteOrder) :
    beforeFirstShort 24 (writes.map (Written.partialWrite o)) =
        (writes.take count).map (Written.partialWrite o) ∧
      fromFirstShort 24 (writes.map (Written.partialWrite o)) =
        (writes.drop count).map (Written.partialWrite o) := by
  have hfull : ∀ w ∈ (writes.take count).map (Written.partialWrite o), w.isFull 24 = true := by
    intro w hw
    obtain ⟨written, hwritten, rfl⟩ := List.mem_map.mp hw
    rw [isFull_partialWrite, h.full written hwritten]
  have hshort : ∀ w ∈ (writes.drop count).map (Written.partialWrite o), ¬ w.isFull 24 = true := by
    intro w hw
    obtain ⟨written, hwritten, rfl⟩ := List.mem_map.mp hw
    rw [isFull_partialWrite, not_le]
    exact h.short written hwritten
  have hsplit := before_from_of_split hfull hshort
  rwa [← List.map_append, List.take_append_drop] at hsplit

theorem writes_partialWrite (h : Delivered records writes count) (o : ByteOrder) :
    Writes 24 (writes.map (Written.partialWrite o)) := by
  refine writes_of_pos o ?_
  intro w hw
  rw [List.dropLast_eq_take] at hw
  have hle : writes.length - 1 ≤ count := by
    have := h.le_count
    omega
  rw [h.full w ((List.take_prefix_take_left hle).subset hw)]
  decide

/-- The last write is the only one that may be short. -/
theorem drop_cases (h : Delivered records writes count) :
    writes.drop count = [] ∨ ∃ w, writes.drop count = [w] ∧ w.2.transferred < 24 := by
  have hlen : (writes.drop count).length ≤ 1 := by
    have := h.le_count
    rw [List.length_drop]
    omega
  cases hdrop : writes.drop count with
  | nil => exact .inl rfl
  | cons w rest =>
    rw [hdrop, List.length_cons] at hlen
    obtain rfl : rest = [] := List.eq_nil_of_length_eq_zero (by omega)
    exact .inr ⟨w, rfl, h.short w (hdrop ▸ List.mem_cons_self)⟩

theorem leftover_lt (h : Delivered records writes count) (o : ByteOrder) :
    leftover 24 (writes.map (Written.partialWrite o)) < 24 := by
  rw [leftover, (h.before_from o).2]
  rcases h.drop_cases with hnil | ⟨w, hw, hlt⟩
  · rw [hnil]
    exact Nat.succ_pos 23
  · rw [hw]
    exact hlt

theorem map_take (h : Delivered records writes count) :
    (writes.take count).map Prod.fst = records.take count := by
  obtain ⟨more, rfl⟩ := h.records
  rw [List.take_append_of_le_length (by rw [List.length_map]; exact h.count_le), List.map_take]

theorem map_drop (h : Delivered records writes count) :
    (writes.drop count).map Prod.fst <+: records.drop count := by
  rw [List.map_drop]
  exact h.records.drop count

/-- **What the receiver gets**: the records counted, and the first bytes of the next. -/
theorem sentBytes (h : Delivered records writes count) (o : ByteOrder) :
    blocks 24 (sentBytes o writes) = (records.take count).map (IpcFrame.bytes o) ∧
      residue 24 (C.sentBytes o writes) <+:
        ((records.drop count).take 1).flatMap (IpcFrame.bytes o) := by
  obtain ⟨hbefore, hfrom⟩ := h.before_from o
  obtain ⟨hblocks, hresidue⟩ := (h.writes_partialWrite o).blocks_stream (h.leftover_lt o)
  constructor
  · rw [C.sentBytes, hblocks, hbefore, List.map_map, ← h.map_take, List.map_map]
    rfl
  · rw [C.sentBytes, hresidue, hfrom]
    rcases h.drop_cases with hnil | ⟨w, hw, _⟩
    · rw [hnil]
      exact List.nil_prefix
    · obtain ⟨more, hmore⟩ := h.map_drop
      have hnext : ((records.drop count).take 1).flatMap (IpcFrame.bytes o) = w.1.bytes o := by
        rw [← hmore, hw]
        exact List.flatMap_singleton _ _
      have hlast : stream ((writes.drop count).map (Written.partialWrite o)) =
          (w.1.bytes o).take w.2.transferred := by
        rw [hw]
        exact List.flatMap_singleton _ _
      rw [hnext, hlast]
      exact List.take_prefix _ _

end Bridge.Delivered

variable {ι R W : Type} [DecidableEq ι] [PyFloat R]

/-- **The bridge delivers an exact prefix.** Whatever the writes of a bridge transfer and
however `recv` cuts the stream: once the server has received all of it and the end of the
connection, the frames dispatched for the bridge are the decodings of the first
`g_frames_bridged` captured frames, in order, with their ids, lengths, data, flags and times,
and the thread is left with at most 23 bytes, the first ones of the next record. -/
theorem bridge_delivers_counted (o : ByteOrder)
    (callbacks : List (Callback PyError W (CANFrame R))) (world : W) (reads : List BridgeRead)
    (i : ι) (es : List (Event ι R)) (s : Service ι R W)
    (hrun : Machine.run (Service.step o callbacks) (Service.init world) es = some s)
    (hreceived : receivedBy i es = sentBytes o (Bridge.start.loop reads).writes)
    (hclosed : (s.clients i).position = .closed) :
    let captured := reads.filterMap BridgeRead.record?
    let framesBridged := (Bridge.start.loop reads).framesBridged
    framesBridged ≤ captured.length ∧
      List.Forall₂ (DecodesTo o) ((captured.take framesBridged).map (IpcFrame.bytes o))
        (framesFrom i s.dispatched) ∧
      List.Forall₂ (fun c frame => CapturedAs c.2.1 c.2.2 frame)
        ((reads.filterMap BridgeRead.captured?).take framesBridged) (framesFrom i s.dispatched) ∧
      (s.clients i).buffer.length ≤ 23 ∧
      (s.clients i).buffer <+:
        ((captured.drop framesBridged).take 1).flatMap (IpcFrame.bytes o) := by
  dsimp only
  have h := Bridge.delivered_loop reads
  generalize Bridge.start.loop reads = b at *
  obtain ⟨raws, hraws⟩ := (reassembled_run hrun).clients i
  obtain ⟨hdecoded, hbuffer, hlt⟩ := hraws.blocks_waiting (by rw [hclosed]; decide)
  rw [hreceived] at hdecoded hbuffer
  obtain ⟨hblocks, hresidue⟩ := h.sentBytes o
  rw [hblocks] at hdecoded
  refine ⟨?_, hdecoded, ?_, Nat.le_of_lt_succ hlt, hbuffer ▸ hresidue⟩
  · calc b.framesBridged ≤ b.writes.length := h.count_le
      _ = (b.writes.map Prod.fst).length := (List.length_map _).symm
      _ ≤ _ := h.records.length_le
  · rw [filterMap_record?, ← List.map_take, List.map_map, List.forall₂_map_left_iff] at hdecoded
    exact hdecoded.imp fun c frame ⟨_, hframe⟩ =>
      (carries_bridgePack c.1 c.2.1 c.2.2).capturedAs hframe

/-- A frame without data. -/
def emptyFrame (canId : UInt32) : CanFrame := ⟨canId, 0, .zero 8⟩

/-- A full write, a write of ten bytes, and a read that is not reached. -/
def bridgeReads : List BridgeRead :=
  let pkt : IpcFrame := ⟨0, 0, 0, .zero 8, 0, 0, 0⟩
  [.frame pkt (emptyFrame 0x110) 1000000 (.wrote 24 (by decide) (by decide)),
    .frame pkt (emptyFrame 0x220) 2000000 (.wrote 10 (by decide) (by decide)),
    .frame pkt (emptyFrame 0x230) 3000000 (.wrote 24 (by decide) (by decide))]

/-- The 34 bytes of these writes arrive in two chunks. -/
def bridgeEvents : List (Event Unit ℚ) :=
  let sent := sentBytes .little (Bridge.start.loop bridgeReads).writes
  [.recv () (sent.take 20), .turn () 0, .recv () (sent.drop 20), .turn () 0, .turn () 0, .eof ()]

theorem bridge_delivers_counted_shortLast :
    ∃ s : Service Unit ℚ Unit,
      Machine.run (Service.step .little []) (Service.init ()) bridgeEvents = some s ∧
        (framesFrom () s.dispatched).length = 1 ∧ (s.clients ()).buffer.length ≤ 23 := by
  have hclosed : (Machine.run (Service.step .little []) (Service.init ()) bridgeEvents).map
      (fun s : Service Unit ℚ Unit => (s.clients ()).position) = some .closed := by
    decide +kernel
  obtain ⟨s, hs, hposition⟩ := Option.map_eq_some_iff.mp hclosed
  obtain ⟨_, hdecoded, _, hbuffer, _⟩ := bridge_delivers_counted .little [] () bridgeReads () _ s hs
    (by decide +kernel) hposition
  exact ⟨s, hs, hdecoded.length_eq.symm, hbuffer⟩

/-! ## The sniffer -/

/-- The stream is in sync: the dispatched frames are the decodings of some of the records
that were written, in order, and none is made of the bytes of two writes. -/
def InSync (o : ByteOrder) (writes : List Written) (frames : List (CANFrame R)) : Prop :=
  (∃ kept, kept.Sublist (writes.map fun w => w.1.bytes o) ∧
    List.Forall₂ (DecodesTo o) kept frames) ∧
  Unmixed 24
    ((taggedStream (writes.map (Written.partialWrite o)) 0).take (24 * frames.length))

theorem length_sentBytes (o : ByteOrder) (writes : List Written) :
    (taggedStream (writes.map (Written.partialWrite o)) 0).length =
      (sentBytes o writes).length := by
  rw [sentBytes, ← map_fst_taggedStream _ 0, List.length_map]

/-- Too few bytes after the first short write to make up a record. -/
theorem inSync_of_leftover_lt {o : ByteOrder} {writes : List Written}
    (h : Writes 24 (writes.map (Written.partialWrite o)))
    (hlt : leftover 24 (writes.map (Written.partialWrite o)) < 24) {received : Bytes}
    (hreceived : received <+: sentBytes o writes) {frames : List (CANFrame R)}
    (hdecoded : List.Forall₂ (DecodesTo o) ((blocks 24 received).take frames.length) frames) :
    InSync o writes frames := by
  refine ⟨⟨_, ?_, hdecoded⟩, ?_⟩
  · have hblocks : blocks 24 (sentBytes o writes) <+: writes.map fun w => w.1.bytes o := by
      rw [sentBytes, (h.blocks_stream hlt).1]
      refine ((List.takeWhile_prefix _).map PartialWrite.record).trans ?_
      rw [List.map_map]
      exact List.prefix_refl _
    exact ((List.take_prefix _ _).trans
      ((blocks_mono (by decide) hreceived).trans hblocks)).sublist
  · exact ((h.unmixed_iff (by decide)).mpr hlt).mono (by decide) (List.take_prefix _ _)

/-- **When the sniffer stays in sync.** For every sequence of captured frames and write
results, and every run of the server:

- if fewer than 24 bytes are transferred from the first short write on, the stream is in
  sync whatever part of it has been received;
- once all of it has been received and dispatched, the stream is in sync if and only if
  that is so. -/
theorem sniffer_in_sync_iff (o : ByteOrder) (callbacks : List (Callback PyError W (CANFrame R)))
    (world : W) (maxCount : ℕ) (reads : List SnifferRead) (i : ι) (es : List (Event ι R))
    (s : Service ι R W)
    (hrun : Machine.run (Service.step o callbacks) (Service.init world) es = some s) :
    let writes := (Sniffer.connected.loop maxCount reads).writes
    let frames := framesFrom i s.dispatched
    (leftover 24 (writes.map (Written.partialWrite o)) < 24 →
      receivedBy i es <+: sentBytes o writes → InSync o writes frames) ∧
    (receivedBy i es = sentBytes o writes → (s.clients i).position ≠ .drain →
      (InSync o writes frames ↔ leftover 24 (writes.map (Written.partialWrite o)) < 24)) := by
  dsimp only
  have h := writes_sniffer o maxCount reads
  generalize (Sniffer.connected.loop maxCount reads).writes = writes at *
  obtain ⟨raws, hraws⟩ := (reassembled_run hrun).clients i
  have hsync : leftover 24 (writes.map (Written.partialWrite o)) < 24 →
      receivedBy i es <+: sentBytes o writes → InSync o writes (framesFrom i s.dispatched) :=
    fun hlt hreceived => inSync_of_leftover_lt h hlt hreceived hraws.blocks.1
  refine ⟨hsync, ?_⟩
  intro hreceived hposition
  refine ⟨?_, fun hlt => hsync hlt (hreceived ▸ List.prefix_refl _)⟩
  -- all records of the stream are dispatched, so none of them is mixed
  rintro ⟨_, hunmixed⟩
  have hframes : (framesFrom i s.dispatched).length = (sentBytes o writes).length / 24 := by
    rw [← (hraws.blocks_waiting hposition).1.length_eq, hreceived, length_blocks]
  rw [hframes, ← length_sentBytes, Unmixed, blocks_take (by decide), ← Unmixed] at hunmixed
  exact (h.unmixed_iff (by decide)).mp hunmixed

/-- A full write and a last one of ten bytes. -/
def shortLast : List SnifferRead :=
  [.frame (emptyFrame 0x110) 1000000 (.wrote 24 (by decide) (by decide)),
    .frame (emptyFrame 0x220) 2000000 (.wrote 10 (by decide) (by decide))]

/-- The other way round. -/
def shortFirst : List SnifferRead :=
  [.frame (emptyFrame 0x110) 1000000 (.wrote 10 (by decide) (by decide)),
    .frame (emptyFrame 0x220) 2000000 (.wrote 24 (by decide) (by decide))]

/-- The bytes of these writes arrive in one chunk. -/
def snifferEvents (reads : List SnifferRead) : List (Event Unit ℚ) :=
  [.recv () (sentBytes .little (Sniffer.connected.loop 0 reads).writes), .turn () 0, .turn () 0]

theorem sniffer_in_sync_iff_shortLast :
    ∃ s : Service Unit ℚ Unit,
      Machine.run (Service.step .little []) (Service.init ()) (snifferEvents shortLast) = some s ∧
        InSync .little (Sniffer.connected.loop 0 shortLast).writes
          (framesFrom () s.dispatched) := by
  have hwaiting : (Machine.run (Service.step .little []) (Service.init ())
      (snifferEvents shortLast)).map
      (fun s : Service Unit ℚ Unit => (s.clients ()).position) = some .recv := by
    decide +kernel
  obtain ⟨s, hs, hposition⟩ := Option.map_eq_some_iff.mp hwaiting
  refine ⟨s, hs, ((sniffer_in_sync_iff .little [] () 0 shortLast () _ s hs).2 ?_ ?_).mpr ?_⟩
  · decide +kernel
  · rw [hposition]
    decide
  · decide +kernel

/-- A decoded record keeps its id. -/
theorem canId_of_decodesTo {o : ByteOrder} {p : IpcFrame} {frame : CANFrame R}
    (h : DecodesTo o (p.bytes o) frame) : frame.canId = p.canId.toNat := by
  obtain ⟨now, hnow⟩ := h
  rw [unpackBinaryFrame_bytes] at hnow
  rw [← Except.ok.inj hnow]

/-- After a short first write, the server dispatches a frame that no record decodes to,
made of the first ten bytes of one and of the first bytes of the next. -/
theorem short_write_mixes_frames :
    let writes := (Sniffer.connected.loop 0 shortFirst).writes
    ∃ (s : Service Unit ℚ Unit) (frame : CANFrame ℚ),
      Machine.run (Service.step .little []) (Service.init ()) (snifferEvents shortFirst) = some s ∧
        receivedBy () (snifferEvents shortFirst) = sentBytes .little writes ∧
        framesFrom () s.dispatched = [frame] ∧
        (∀ w ∈ writes, ¬ DecodesTo .little (w.1.bytes .little) frame) ∧
        ¬ InSync .little writes (framesFrom () s.dispatched) := by
  dsimp only
  have hids : (Machine.run (Service.step .little []) (Service.init ())
      (snifferEvents shortFirst)).map
      (fun s : Service Unit ℚ Unit => (framesFrom () s.dispatched).map CANFrame.canId) =
        some [0x84800110] := by
    decide +kernel
  obtain ⟨s, hs, hid⟩ := Option.map_eq_some_iff.mp hids
  obtain ⟨frame, hframes, hframe⟩ := List.map_eq_singleton_iff.mp hid
  have hwrites : ∀ w ∈ (Sniffer.connected.loop 0 shortFirst).writes,
      (w.1.canId.toNat : ℤ) ≠ 0x84800110 := by
    decide +kernel
  have hnone : ∀ w ∈ (Sniffer.connected.loop 0 shortFirst).writes,
      ¬ DecodesTo .little (w.1.bytes .little) frame :=
    fun w hw hdecodes => hwrites w hw ((canId_of_decodesTo hdecodes).symm.trans hframe)
  refine ⟨s, frame, hs, by decide +kernel, hframes, hnone, ?_⟩
  rw [hframes]
  rintro ⟨⟨kept, hkept, hdecoded⟩, _⟩
  obtain ⟨raw, rest, hraw, _, rfl⟩ := List.forall₂_cons_right_iff.mp hdecoded
  obtain ⟨w, hw, rfl⟩ := List.mem_map.mp (hkept.subset List.mem_cons_self)
  exact hnone w hw hraw

end CanSentinel.C
