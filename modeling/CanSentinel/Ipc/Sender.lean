import CanSentinel.Lib.PartialWrites
import CanSentinel.Ipc.Record

/-!
# The senders (`c/sniffer.c`, `c/ipc_bridge.c`)

Both programs read frames from the CAN socket in a loop and write one record for each
to the stream socket of the IPC server. A `write` may fail, or transfer only the first
bytes of the record.

- `Sniffer.loop` gives up the stream when a write fails and goes on after a short one.
- `Bridge.loop` stops at every write that is not complete.
- `writes_sniffer`, `bridge_spec`: what the loops put on the stream.
-/

namespace CanSentinel.C

open Framing

/-- What `write(ipc_sock, &record, 24)` does: it fails and transfers nothing, or it
transfers the first `n` bytes. -/
inductive WriteResult where
  | failed
  | wrote (n : ℕ) (pos : 0 < n) (le : n ≤ 24)
deriving DecidableEq

/-- The number of bytes transferred. -/
def WriteResult.transferred : WriteResult → ℕ
  | .failed => 0
  | .wrote n _ _ => n

/-- A record and the result of its write. -/
abbrev Written := IpcFrame × WriteResult

/-- The memory of a record, and how much of it was transferred. -/
def Written.partialWrite (o : ByteOrder) (w : Written) : PartialWrite UInt8 :=
  ⟨w.1.bytes o, w.2.transferred⟩

/-- The bytes the writes put on the stream. -/
def sentBytes (o : ByteOrder) (writes : List Written) : Bytes :=
  stream (writes.map (Written.partialWrite o))

/-! ## The sniffer -/

/-- What a turn of the sniffer's loop meets: `read` fails, returns less than a frame, or
returns a frame, which is stamped and, if the stream is connected, written with the
given result. -/
inductive SnifferRead where
  | failed
  | short
  | frame (frame : CanFrame) (tsUs : UInt64) (io : WriteResult)

/-- The variables of the sniffer's loop: `g_packets_captured` and whether `ipc_sock` is
connected. `writes` are the records built so far and the results of their writes; the
program does not keep them. -/
structure Sniffer where
  packetsCaptured : ℕ
  ipcSock : Bool
  writes : List Written

namespace Sniffer

/-- The loop is entered with a connected stream. -/
def connected : Sniffer := ⟨0, true, []⟩

/-- What the loop does with a frame. -/
def forward (s : Sniffer) (frame : CanFrame) (tsUs : UInt64) (io : WriteResult) : Sniffer :=
  let s := { s with packetsCaptured := s.packetsCaptured + 1 }
  if s.ipcSock then
    let s := { s with writes := s.writes ++ [(snifferPack frame tsUs, io)] }
    match io with
    | .failed => { s with ipcSock := false }
    | .wrote _ _ _ => s
  else s

/-- The loop of `main`, until `max_count` frames are captured (0 for no limit), a read
fails, or the signal handler stops it at the end of the list. -/
def loop (maxCount : ℕ) (s : Sniffer) : List SnifferRead → Sniffer
  | [] => s
  | read :: reads =>
    if maxCount = 0 ∨ s.packetsCaptured < maxCount then
      match read with
      | .failed => s
      | .short => loop maxCount s reads
      | .frame f tsUs io => loop maxCount (s.forward f tsUs io) reads
    else s

/-- No write follows a failed one. -/
structure Inv (s : Sniffer) : Prop where
  earlier : ∀ w ∈ s.writes.dropLast, 0 < w.2.transferred
  all : s.ipcSock = true → ∀ w ∈ s.writes, 0 < w.2.transferred

theorem inv_connected : Inv connected where
  earlier := by
    intro w hw
    cases hw
  all := by
    intro _ w hw
    cases hw

theorem Inv.forward {s : Sniffer} (h : Inv s) (frame : CanFrame) (tsUs : UInt64)
    (io : WriteResult) : Inv (s.forward frame tsUs io) := by
  unfold Sniffer.forward
  dsimp only
  by_cases hsock : s.ipcSock = true
  · rw [if_pos hsock]
    cases io with
    | failed =>
      -- the stream is closed, so this write stays the last
      refine ⟨?_, fun hclosed => by cases hclosed⟩
      rw [List.dropLast_concat]
      exact h.all hsock
    | wrote n pos le =>
      refine ⟨?_, ?_⟩
      · rw [List.dropLast_concat]
        exact h.all hsock
      · intro _
        rw [List.forall_mem_append, List.forall_mem_singleton]
        exact ⟨h.all hsock, pos⟩
  · rw [if_neg hsock]
    exact ⟨h.earlier, fun hopen => absurd hopen hsock⟩

theorem Inv.loop {s : Sniffer} (h : Inv s) (maxCount : ℕ) (reads : List SnifferRead) :
    Inv (s.loop maxCount reads) := by
  induction reads generalizing s with
  | nil => exact h
  | cons read reads ih =>
    unfold Sniffer.loop
    by_cases hmore : maxCount = 0 ∨ s.packetsCaptured < maxCount
    · rw [if_pos hmore]
      cases read with
      | failed => exact h
      | short => exact ih h
      | frame f tsUs io => exact ih (h.forward f tsUs io)
    · rw [if_neg hmore]
      exact h

end Sniffer

theorem transferred_le (io : WriteResult) : io.transferred ≤ 24 := by
  cases io with
  | failed => exact Nat.zero_le _
  | wrote n _ le => exact le

/-- The records a sender writes are 24 bytes each. -/
theorem writes_of_pos (o : ByteOrder) {writes : List Written}
    (hpos : ∀ w ∈ writes.dropLast, 0 < w.2.transferred) :
    Writes 24 (writes.map (Written.partialWrite o)) where
  length := by
    intro w hw
    obtain ⟨written, _, rfl⟩ := List.mem_map.mp hw
    exact written.1.length_bytes o
  le := by
    intro w hw
    obtain ⟨written, _, rfl⟩ := List.mem_map.mp hw
    exact transferred_le written.2
  pos := by
    intro w hw
    rw [← List.map_dropLast] at hw
    obtain ⟨written, hwritten, rfl⟩ := List.mem_map.mp hw
    exact hpos written hwritten

/-- The writes of a sniffer. -/
theorem writes_sniffer (o : ByteOrder) (maxCount : ℕ) (reads : List SnifferRead) :
    Writes 24 ((Sniffer.connected.loop maxCount reads).writes.map (Written.partialWrite o)) :=
  writes_of_pos o (Sniffer.inv_connected.loop maxCount reads).earlier

/-! ## The bridge -/

/-- What a turn of the bridge's loop meets: `read` stops it, or returns a frame, which
is packed into `pkt`, whatever its memory holds, and written with the given result. -/
inductive BridgeRead where
  | stopped
  | frame (pkt : IpcFrame) (frame : CanFrame) (tsUs : UInt64) (io : WriteResult)

/-- The record of a captured frame. -/
def BridgeRead.record? : BridgeRead → Option IpcFrame
  | .stopped => none
  | .frame pkt f tsUs _ => some (bridgePack pkt f tsUs)

/-- The captured frame and its time, with the memory that the record is packed into. -/
def BridgeRead.captured? : BridgeRead → Option (IpcFrame × CanFrame × UInt64)
  | .stopped => none
  | .frame pkt f tsUs _ => some (pkt, f, tsUs)

theorem filterMap_record? (reads : List BridgeRead) :
    reads.filterMap BridgeRead.record? =
      (reads.filterMap BridgeRead.captured?).map fun c => bridgePack c.1 c.2.1 c.2.2 := by
  rw [List.map_filterMap]
  refine congrArg (List.filterMap · reads) (funext fun read => ?_)
  cases read <;> rfl

/-- The bridge: `g_frames_bridged`, and the records written so far with the results,
which the program does not keep. -/
structure Bridge where
  framesBridged : ℕ
  writes : List Written

namespace Bridge

/-- The loop is entered. -/
def start : Bridge := ⟨0, []⟩

/-- The loop of `main`, until a read stops it, a write is not complete, or the signal
handler stops it at the end of the list. -/
def loop (s : Bridge) : List BridgeRead → Bridge
  | [] => s
  | .stopped :: _ => s
  | .frame pkt f tsUs io :: reads =>
    let s := { s with writes := s.writes ++ [(bridgePack pkt f tsUs, io)] }
    if io.transferred ≠ ipcFrameSize then s
    else loop { s with framesBridged := s.framesBridged + 1 } reads

/-- The writes of the first captured records: `count` full ones, and at most one more. -/
structure Delivered (records : List IpcFrame) (writes : List Written) (count : ℕ) : Prop where
  records : writes.map Prod.fst <+: records
  full : ∀ w ∈ writes.take count, w.2.transferred = 24
  short : ∀ w ∈ writes.drop count, w.2.transferred < 24
  count_le : count ≤ writes.length
  le_count : writes.length ≤ count + 1

theorem delivered_nil (records : List IpcFrame) : Delivered records [] 0 where
  records := List.nil_prefix
  full := by
    intro w hw
    cases hw
  short := by
    intro w hw
    cases hw
  count_le := le_rfl
  le_count := Nat.zero_le _

/-- A write that is not complete is the last. -/
theorem delivered_last (record : IpcFrame) (records : List IpcFrame) {io : WriteResult}
    (hio : io.transferred < 24) : Delivered (record :: records) [(record, io)] 0 where
  records := List.cons_prefix_cons.mpr ⟨rfl, List.nil_prefix⟩
  full := by
    intro w hw
    cases hw
  short := by
    intro w hw
    rw [List.drop_zero, List.mem_singleton] at hw
    exact hw ▸ hio
  count_le := Nat.zero_le _
  le_count := le_rfl

/-- A complete write before the others. -/
theorem Delivered.cons {records : List IpcFrame} {writes : List Written} {count : ℕ}
    (h : Delivered records writes count) (record : IpcFrame) {io : WriteResult}
    (hio : io.transferred = 24) :
    Delivered (record :: records) ((record, io) :: writes) (count + 1) where
  records := List.cons_prefix_cons.mpr ⟨rfl, h.records⟩
  full := by
    rw [List.take_succ_cons, List.forall_mem_cons]
    exact ⟨hio, h.full⟩
  short := h.short
  count_le := Nat.succ_le_succ h.count_le
  le_count := Nat.succ_le_succ h.le_count

/-- What the loop counts and writes. -/
theorem loop_spec (s : Bridge) (reads : List BridgeRead) :
    ∃ writes count, s.loop reads = ⟨s.framesBridged + count, s.writes ++ writes⟩ ∧
      Delivered (reads.filterMap BridgeRead.record?) writes count := by
  induction reads generalizing s with
  | nil => exact ⟨[], 0, by rw [List.append_nil]; rfl, delivered_nil _⟩
  | cons read reads ih =>
    cases read with
    | stopped => exact ⟨[], 0, by rw [List.append_nil]; rfl, delivered_nil _⟩
    | frame pkt f tsUs io =>
      unfold Bridge.loop
      dsimp only
      rw [ipcFrameSize_eq]
      have hrecord : (BridgeRead.frame pkt f tsUs io).record? = some (bridgePack pkt f tsUs) := rfl
      rw [List.filterMap_cons_some hrecord]
      by_cases hio : io.transferred = 24
      · rw [if_neg (not_not.mpr hio)]
        obtain ⟨writes, count, hloop, hdelivered⟩ :=
          ih ⟨s.framesBridged + 1, s.writes ++ [(bridgePack pkt f tsUs, io)]⟩
        refine ⟨(bridgePack pkt f tsUs, io) :: writes, count + 1, ?_, hdelivered.cons _ hio⟩
        rw [hloop, List.append_assoc, Nat.add_assoc, Nat.add_comm 1 count]
        rfl
      · rw [if_pos hio]
        have hle := transferred_le io
        exact ⟨[(bridgePack pkt f tsUs, io)], 0, rfl, delivered_last _ _ (by omega)⟩

/-- The bridge counts the records it has written in full. -/
theorem delivered_loop (reads : List BridgeRead) :
    Delivered (reads.filterMap BridgeRead.record?) (start.loop reads).writes
      (start.loop reads).framesBridged := by
  obtain ⟨writes, count, hloop, hdelivered⟩ := start.loop_spec reads
  rw [hloop]
  show Delivered _ ([] ++ writes) (0 + count)
  rwa [List.nil_append, Nat.zero_add]

end Bridge

end CanSentinel.C
