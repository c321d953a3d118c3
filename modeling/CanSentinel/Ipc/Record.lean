import CanSentinel.Bus.Frame

/-!
# The IPC record (`ipc/ipc_server.py`, `c/*.c`)

Captured frames travel from the C programs to the Python server as packed
24-byte records. `can_craft_frame` builds the socket frame, `sniffer.c` and
`ipc_bridge.c` each pack it in their own way, and `unpack_binary_frame` decodes
the bytes by a format string.

- `unpackBinaryFrame_of_length`: what the decoder makes of any 24 bytes.
- `unpackBinaryFrame_bytes`: decoding the memory of a packed C struct.
- `crafted_record_round_trip`: both packers and the decoder agree on every
  crafted frame, in either byte order, and no decoded frame has more data than
  its DLC.
-/

namespace CanSentinel

variable {R : Type} [PyFloat R]

/-! ## The decoder -/

/-- `IPC_FRAME_STRUCT_FORMAT = "=QIB8sBBB"`. -/
def ipcFrameStructFormat : List StructCode := [.Q, .I, .B, .s 8, .B, .B, .B]

/-- `IPC_FRAME_SIZE`. -/
def ipcFrameSize : ℕ := calcsize ipcFrameStructFormat

@[simp] theorem ipcFrameSize_eq : ipcFrameSize = 24 := rfl

/-- `CANIPCServer.unpack_binary_frame` on a host of byte order `o`; `now` is the
reading of `time.time()` that stands in for a zero timestamp. -/
def unpackBinaryFrame (o : ByteOrder) (now : R) (rawBytes : Bytes) :
    Except PyError (CANFrame R) :=
  if rawBytes.length ≠ ipcFrameSize then
    .error (.valueError ("Invalid frame size: " ++ toString rawBytes.length ++ " != " ++
      toString ipcFrameSize))
  else do
    let (tsUs, canId, dlc, dataBytes, isExt, isErr, isRtr, ()) ←
      structUnpack o ipcFrameStructFormat rawBytes
    let timestampSec : R := if 0 < tsUs then (tsUs : R) / 1000000.0 else now
    let actualData := pySlice dataBytes dlc
    return CANFrame.new now canId actualData (some dlc) (isExt ≠ 0) (isErr ≠ 0) (isRtr ≠ 0)
      (some timestampSec)

/-- The DLC byte and the id of a record. -/
def recordDlc (o : ByteOrder) (raw : Bytes) : ℕ := o.decode ((raw.drop 12).take 1)

def recordCanId (o : ByteOrder) (raw : Bytes) : ℕ := o.decode ((raw.drop 8).take 4)

/-- The frame a 24-byte record stands for. -/
def recordFrame (o : ByteOrder) (now : R) (raw : Bytes) : CANFrame R where
  canId := recordCanId o raw
  data := ((raw.drop 13).take 8).take (recordDlc o raw)
  dlc := min (recordDlc o raw) 8
  isExtended := o.decode ((raw.drop 21).take 1) ≠ 0
  isError := o.decode ((raw.drop 22).take 1) ≠ 0
  isRtr := o.decode ((raw.drop 23).take 1) ≠ 0
  timestamp := if 0 < o.decode (raw.take 8) then (o.decode (raw.take 8) : R) / 1000000.0 else now

/-- **The decoder is total on 24 bytes.** -/
theorem unpackBinaryFrame_of_length (o : ByteOrder) (now : R) {raw : Bytes}
    (h : raw.length = 24) : unpackBinaryFrame o now raw = .ok (recordFrame o now raw) := by
  have hfields : readFields o ipcFrameStructFormat raw =
      (o.decode (raw.take 8), recordCanId o raw, recordDlc o raw, (raw.drop 13).take 8,
        o.decode ((raw.drop 21).take 1), o.decode ((raw.drop 22).take 1),
        o.decode ((raw.drop 23).take 1), ()) := by
    simp [ipcFrameStructFormat, readFields, StructCode.read, StructCode.size, List.drop_drop,
      recordCanId, recordDlc]
  have hsize : raw.length = ipcFrameSize := h
  rw [unpackBinaryFrame, if_neg (not_not.mpr hsize), structUnpack_of_length o hsize, hfields]
  have hslice := pySlice_of_nonneg ((raw.drop 13).take 8) (Int.natCast_nonneg (recordDlc o raw))
  rw [Int.toNat_natCast] at hslice
  show Except.ok _ = _
  rw [hslice]
  rfl

/-- A record decodes to a frame with exactly as many bytes as its DLC, at most
eight. -/
theorem length_recordFrame (o : ByteOrder) (now : R) {raw : Bytes} (h : raw.length = 24) :
    ((recordFrame o now raw).data.length : ℤ) = (recordFrame o now raw).dlc ∧
      (recordFrame o now raw).dlc ≤ 8 := by
  have hdata : ((raw.drop 13).take 8).length = 8 := by
    rw [List.length_take, List.length_drop]
    omega
  constructor
  · show ((((raw.drop 13).take 8).take (recordDlc o raw)).length : ℤ) = min (recordDlc o raw : ℤ) 8
    rw [List.length_take, hdata]
    omega
  · exact min_le_right _ _

/-! ## The encoders -/

namespace C

/-- A C byte array of `k` elements. -/
def ByteArray (k : ℕ) : Type := {bs : Bytes // bs.length = k}

/-- An array of zeros, as `memset` leaves it. -/
def ByteArray.zero (k : ℕ) : ByteArray k := ⟨List.replicate k 0, List.length_replicate⟩

/-- `memcpy(dst, src, n)` within the bounds of both. -/
def memcpy {k : ℕ} (dst : ByteArray k) (src : Bytes) (n : ℕ) (hsrc : n ≤ src.length)
    (hdst : n ≤ k) : ByteArray k :=
  ⟨src.take n ++ dst.1.drop n, by
    rw [List.length_append, List.length_take, List.length_drop, dst.2]
    omega⟩

def canMaxDlen : UInt8 := 8
def canEffFlag : UInt32 := 0x80000000
def canRtrFlag : UInt32 := 0x40000000
def canErrFlag : UInt32 := 0x20000000
def canSffMask : UInt32 := 0x000007FF
def canEffMask : UInt32 := 0x1FFFFFFF

/-- `struct can_frame`, without its padding. -/
structure CanFrame where
  canId : UInt32
  canDlc : UInt8
  data : ByteArray 8

/-- `can_sentinel_ipc_frame_t`. -/
structure IpcFrame where
  timestampUs : UInt64
  canId : UInt32
  dlc : UInt8
  data : ByteArray 8
  isExtended : UInt8
  isError : UInt8
  isRtr : UInt8

/-- The memory of the packed struct on a host of byte order `o`. -/
def IpcFrame.bytes (o : ByteOrder) (p : IpcFrame) : Bytes :=
  o.encode 8 p.timestampUs.toNat ++ (o.encode 4 p.canId.toNat ++ ([p.dlc] ++ (p.data.1 ++
    [p.isExtended, p.isError, p.isRtr])))

/-- The DLC `can_craft_frame` stores. -/
def clampDlc (dlc : UInt8) : UInt8 := if dlc > canMaxDlen then canMaxDlen else dlc

theorem clampDlc_toNat (dlc : UInt8) : (clampDlc dlc).toNat = min dlc.toNat 8 := by
  have hiff : dlc > canMaxDlen ↔ 8 < dlc.toNat := UInt8.lt_iff_toNat_lt
  rw [clampDlc]
  by_cases h : dlc > canMaxDlen
  · rw [if_pos h, min_eq_right (hiff.mp h).le]
    rfl
  · rw [if_neg h, min_eq_left (not_lt.mp fun hlt => h (hiff.mpr hlt))]

/-- `can_craft_frame` into a frame that is not `NULL`; `data` may be, and otherwise
holds the bytes that are copied. -/
def canCraftFrame (canId : UInt32) (dlc : UInt8) (data : Option Bytes) (isExtended isRtr : Bool)
    (hdata : ∀ src ∈ data, min dlc.toNat 8 ≤ src.length) : CanFrame :=
  let dlc' := clampDlc dlc
  let id := if isExtended then (canId &&& canEffMask) ||| canEffFlag else canId &&& canSffMask
  let id := if isRtr then id ||| canRtrFlag else id
  { canId := id
    canDlc := dlc'
    data := match data, hdata with
      | some src, hdata =>
        if 0 < dlc' then
          memcpy (.zero 8) src dlc'.toNat (clampDlc_toNat dlc ▸ hdata src rfl)
            (clampDlc_toNat dlc ▸ min_le_right _ _)
        else .zero 8
      | none, _ => .zero 8 }

/-- `frame.can_id & (frame.can_id & CAN_EFF_FLAG ? CAN_EFF_MASK : CAN_SFF_MASK)`. -/
def CanFrame.maskedId (frame : CanFrame) : UInt32 :=
  frame.canId &&& (if frame.canId &&& canEffFlag ≠ 0 then canEffMask else canSffMask)

/-- `(frame.can_id & flag) ? 1 : 0`. -/
def CanFrame.flag (frame : CanFrame) (flag : UInt32) : UInt8 :=
  if frame.canId &&& flag ≠ 0 then 1 else 0

/-- The packing of `sniffer.c`: a zeroed record, and as many data bytes as the
DLC says. -/
def snifferPack (frame : CanFrame) (tsUs : UInt64) : IpcFrame where
  timestampUs := tsUs
  canId := frame.maskedId
  dlc := frame.canDlc
  data :=
    if h : frame.canDlc.toNat ≤ 8 then
      memcpy (.zero 8) frame.data.1 frame.canDlc.toNat (h.trans_eq frame.data.2.symm) h
    else memcpy (.zero 8) frame.data.1 8 frame.data.2.ge le_rfl
  isExtended := frame.flag canEffFlag
  isError := frame.flag canErrFlag
  isRtr := frame.flag canRtrFlag

/-- The packing of `ipc_bridge.c`: a record that starts uninitialised, of which
every field is then written. -/
def bridgePack (pkt : IpcFrame) (frame : CanFrame) (tsUs : UInt64) : IpcFrame :=
  let pkt := { pkt with timestampUs := tsUs }
  let pkt := { pkt with canId := frame.maskedId }
  let pkt := { pkt with dlc := frame.canDlc }
  let pkt := { pkt with data := memcpy pkt.data frame.data.1 8 frame.data.2.ge le_rfl }
  let pkt := { pkt with isExtended := frame.flag canEffFlag }
  let pkt := { pkt with isError := frame.flag canErrFlag }
  { pkt with isRtr := frame.flag canRtrFlag }

theorem IpcFrame.length_bytes (o : ByteOrder) (p : IpcFrame) : (p.bytes o).length = 24 := by
  simp [IpcFrame.bytes, p.data.2]

/-- **Decoding the memory of a packed struct.** -/
theorem unpackBinaryFrame_bytes (o : ByteOrder) (now : R) (p : IpcFrame) :
    unpackBinaryFrame o now (p.bytes o) = .ok
      { canId := p.canId.toNat
        data := p.data.1.take p.dlc.toNat
        dlc := min p.dlc.toNat 8
        isExtended := p.isExtended ≠ 0
        isError := p.isError ≠ 0
        isRtr := p.isRtr ≠ 0
        timestamp := if 0 < p.timestampUs.toNat then (p.timestampUs.toNat : R) / 1000000.0
          else now } := by
  have hts : o.decode ((p.bytes o).take 8) = p.timestampUs.toNat := by
    rw [IpcFrame.bytes, List.take_left' (o.length_encode _ _)]
    exact o.decode_encode_of_lt p.timestampUs.toNat_lt
  have hid : recordCanId o (p.bytes o) = p.canId.toNat := by
    rw [recordCanId, IpcFrame.bytes, List.drop_left' (o.length_encode _ _),
      List.take_left' (o.length_encode _ _)]
    exact o.decode_encode_of_lt p.canId.toNat_lt
  have hrest : ∀ n, (p.bytes o).drop (12 + n) =
      ([p.dlc] ++ (p.data.1 ++ [p.isExtended, p.isError, p.isRtr])).drop n := by
    intro n
    rw [IpcFrame.bytes, ← List.append_assoc, ← List.drop_drop, List.drop_left' (by simp)]
  have hdlc : recordDlc o (p.bytes o) = p.dlc.toNat := by
    rw [recordDlc, hrest 0]
    exact o.decode_singleton p.dlc
  have hdata : ((p.bytes o).drop 13).take 8 = p.data.1 := by
    rw [hrest 1]
    exact List.take_left' p.data.2
  have hflags : ∀ n, (p.bytes o).drop (21 + n) =
      [p.isExtended, p.isError, p.isRtr].drop n := by
    intro n
    rw [← List.drop_drop, hrest 9]
    show ((p.data.1 ++ _).drop 8).drop n = _
    rw [List.drop_left' p.data.2]
  have hflag : ∀ b : UInt8, decide (o.decode [b] ≠ 0) = decide (b ≠ 0) := by
    intro b
    rw [o.decode_singleton]
    simp [← UInt8.toNat_inj]
  rw [unpackBinaryFrame_of_length o now (p.length_bytes o), recordFrame, hid, hdlc, hdata, hts,
    hflags 0, hflags 1, hflags 2]
  simp only [List.drop_zero, List.drop_succ_cons, List.take_succ_cons, List.take_zero, hflag]

/-! ## Crafted frames -/

theorem or_and (x y z : UInt32) : (x ||| y) &&& z = (x &&& z) ||| (y &&& z) := by
  apply UInt32.toBitVec_inj.mp
  simp only [UInt32.toBitVec_and, UInt32.toBitVec_or, BitVec.and_or_distrib_right]

/-- The id word `can_craft_frame` builds. -/
def craftedId (canId : UInt32) (isExtended isRtr : Bool) : UInt32 :=
  let id := if isExtended then (canId &&& canEffMask) ||| canEffFlag else canId &&& canSffMask
  if isRtr then id ||| canRtrFlag else id

/-- The id word under a mask: the id bits and the two flag bits are tested apart. -/
theorem craftedId_and (canId mask : UInt32) (isExtended isRtr : Bool) :
    craftedId canId isExtended isRtr &&& mask =
      (canId &&& ((if isExtended then canEffMask else canSffMask) &&& mask)) |||
        (((if isExtended then canEffFlag else 0) &&& mask) |||
          ((if isRtr then canRtrFlag else 0) &&& mask)) := by
  cases isExtended <;> cases isRtr <;>
    simp [craftedId, or_and, UInt32.and_assoc, UInt32.or_assoc]

/-- No id bit reaches a flag. -/
theorem craftedId_and_flag {flag : UInt32} (heff : canEffMask &&& flag = 0)
    (hsff : canSffMask &&& flag = 0) (canId : UInt32) (isExtended isRtr : Bool) :
    craftedId canId isExtended isRtr &&& flag =
      ((if isExtended then canEffFlag else 0) &&& flag) |||
        ((if isRtr then canRtrFlag else 0) &&& flag) := by
  have hmask : (if isExtended then canEffMask else canSffMask) &&& flag = 0 := by
    cases isExtended
    · exact hsff
    · exact heff
  rw [craftedId_and, hmask, UInt32.and_zero, UInt32.zero_or]

/-- What the packers read off a crafted frame. -/
theorem craftedId_effFlag (canId : UInt32) (isExtended isRtr : Bool) :
    craftedId canId isExtended isRtr &&& canEffFlag ≠ 0 ↔ isExtended = true := by
  rw [craftedId_and_flag (by decide) (by decide)]
  revert isExtended isRtr
  decide

theorem craftedId_rtrFlag (canId : UInt32) (isExtended isRtr : Bool) :
    craftedId canId isExtended isRtr &&& canRtrFlag ≠ 0 ↔ isRtr = true := by
  rw [craftedId_and_flag (by decide) (by decide)]
  revert isExtended isRtr
  decide

theorem craftedId_errFlag (canId : UInt32) (isExtended isRtr : Bool) :
    craftedId canId isExtended isRtr &&& canErrFlag = 0 := by
  rw [craftedId_and_flag (by decide) (by decide)]
  revert isExtended isRtr
  decide

theorem craftedId_mask (canId : UInt32) (isExtended isRtr : Bool) :
    craftedId canId isExtended isRtr &&& (if isExtended then canEffMask else canSffMask) =
      canId &&& (if isExtended then canEffMask else canSffMask) := by
  have hflags : ((if isExtended then canEffFlag else 0) &&&
      (if isExtended then canEffMask else canSffMask)) |||
      ((if isRtr then canRtrFlag else 0) &&& (if isExtended then canEffMask else canSffMask)) =
        0 := by
    revert isExtended isRtr
    decide
  rw [craftedId_and, hflags, UInt32.or_zero, UInt32.and_self]

section Craft

variable (canId : UInt32) (dlc : UInt8) (data : Option Bytes) (isExtended isRtr : Bool)
  (hdata : ∀ src ∈ data, min dlc.toNat 8 ≤ src.length)

theorem canCraftFrame_maskedId :
    (canCraftFrame canId dlc data isExtended isRtr hdata).maskedId =
      canId &&& (if isExtended then canEffMask else canSffMask) := by
  show craftedId canId isExtended isRtr &&& (if craftedId canId isExtended isRtr &&& canEffFlag ≠ 0
    then canEffMask else canSffMask) = _
  simp only [craftedId_effFlag, craftedId_mask]

theorem canCraftFrame_effFlag :
    (canCraftFrame canId dlc data isExtended isRtr hdata).flag canEffFlag =
      if isExtended then 1 else 0 := by
  show (if craftedId canId isExtended isRtr &&& canEffFlag ≠ 0 then (1 : UInt8) else 0) = _
  simp only [craftedId_effFlag]

theorem canCraftFrame_rtrFlag :
    (canCraftFrame canId dlc data isExtended isRtr hdata).flag canRtrFlag =
      if isRtr then 1 else 0 := by
  show (if craftedId canId isExtended isRtr &&& canRtrFlag ≠ 0 then (1 : UInt8) else 0) = _
  simp only [craftedId_rtrFlag]

theorem canCraftFrame_errFlag :
    (canCraftFrame canId dlc data isExtended isRtr hdata).flag canErrFlag = 0 := by
  show (if craftedId canId isExtended isRtr &&& canErrFlag ≠ 0 then (1 : UInt8) else 0) = _
  rw [craftedId_errFlag, if_neg (not_not.mpr rfl)]

theorem canCraftFrame_canDlc :
    (canCraftFrame canId dlc data isExtended isRtr hdata).canDlc.toNat = min dlc.toNat 8 :=
  clampDlc_toNat dlc

/-- The frame carries the payload bytes its DLC promises. -/
theorem canCraftFrame_data (src : Bytes) (hsrc : ∀ bs ∈ some src, min dlc.toNat 8 ≤ bs.length) :
    (canCraftFrame canId dlc (some src) isExtended isRtr hsrc).data.1.take (min dlc.toNat 8) =
      src.take (min dlc.toNat 8) := by
  have hlen := hsrc src rfl
  have hclamp := clampDlc_toNat dlc
  show (if 0 < clampDlc dlc then _ else ByteArray.zero 8).1.take _ = _
  by_cases hpos : 0 < clampDlc dlc
  · rw [if_pos hpos]
    show (src.take (clampDlc dlc).toNat ++ _).take _ = _
    rw [hclamp]
    refine List.take_left' ?_
    rw [List.length_take]
    omega
  · have hzero : (clampDlc dlc).toNat = 0 := by
      by_contra hne
      exact hpos (UInt8.lt_iff_toNat_lt.mpr (Nat.pos_of_ne_zero hne))
    rw [if_neg hpos, ← hclamp, hzero, List.take_zero, List.take_zero]

end Craft

/-- The record `p` carries the frame `f` stamped `tsUs`: the fields both packers
agree on. -/
structure Carries (p : IpcFrame) (f : CanFrame) (tsUs : UInt64) : Prop where
  timestampUs : p.timestampUs = tsUs
  canId : p.canId = f.maskedId
  dlc : p.dlc = f.canDlc
  data : p.data.1.take f.canDlc.toNat = f.data.1.take f.canDlc.toNat
  isExtended : p.isExtended = f.flag canEffFlag
  isError : p.isError = f.flag canErrFlag
  isRtr : p.isRtr = f.flag canRtrFlag

theorem carries_snifferPack (f : CanFrame) (tsUs : UInt64) (h : f.canDlc.toNat ≤ 8) :
    Carries (snifferPack f tsUs) f tsUs where
  timestampUs := rfl
  canId := rfl
  dlc := rfl
  data := by
    show (dite (f.canDlc.toNat ≤ 8) _ _ : ByteArray 8).1.take _ = _
    rw [dif_pos h]
    exact List.take_left' (by rw [List.length_take, f.data.2]; omega)
  isExtended := rfl
  isError := rfl
  isRtr := rfl

theorem carries_bridgePack (pkt : IpcFrame) (f : CanFrame) (tsUs : UInt64) :
    Carries (bridgePack pkt f tsUs) f tsUs where
  timestampUs := rfl
  canId := rfl
  dlc := rfl
  data := by
    show (f.data.1.take 8 ++ pkt.data.1.drop 8).take _ = _
    rw [List.take_of_length_le f.data.2.le, List.drop_of_length_le pkt.data.2.le,
      List.append_nil]
  isExtended := rfl
  isError := rfl
  isRtr := rfl

theorem CanFrame.flag_ne_zero_iff (f : CanFrame) (flag : UInt32) :
    f.flag flag ≠ 0 ↔ f.canId &&& flag ≠ 0 := by
  rw [CanFrame.flag]
  by_cases h : f.canId &&& flag ≠ 0
  · rw [if_pos h]
    exact iff_of_true (by decide) h
  · rw [if_neg h]
    exact iff_of_false (by decide) h

/-- Python's frame for the captured frame `f`, stamped `tsUs`. -/
structure CapturedAs (f : CanFrame) (tsUs : UInt64) (frame : CANFrame R) : Prop where
  canId : frame.canId = f.maskedId.toNat
  dlc : frame.dlc = min (f.canDlc.toNat : ℤ) 8
  data : frame.data = f.data.1.take f.canDlc.toNat
  isExtended : frame.isExtended = true ↔ f.canId &&& canEffFlag ≠ 0
  isError : frame.isError = true ↔ f.canId &&& canErrFlag ≠ 0
  isRtr : frame.isRtr = true ↔ f.canId &&& canRtrFlag ≠ 0
  timestamp : 0 < tsUs.toNat → frame.timestamp = tsUs.toNat / 1000000.0

theorem Carries.capturedAs {p : IpcFrame} {f : CanFrame} {tsUs : UInt64} (h : Carries p f tsUs)
    {o : ByteOrder} {now : R} {frame : CANFrame R}
    (hframe : unpackBinaryFrame o now (p.bytes o) = .ok frame) : CapturedAs f tsUs frame := by
  rw [unpackBinaryFrame_bytes, h.timestampUs, h.canId, h.dlc, h.data, h.isExtended, h.isError,
    h.isRtr] at hframe
  cases hframe
  exact
    { canId := rfl
      dlc := rfl
      data := rfl
      isExtended := decide_eq_true_iff.trans (f.flag_ne_zero_iff _)
      isError := decide_eq_true_iff.trans (f.flag_ne_zero_iff _)
      isRtr := decide_eq_true_iff.trans (f.flag_ne_zero_iff _)
      timestamp := fun hpos => if_pos hpos }

section RoundTrip

variable (o : ByteOrder) (now : R) (canId : UInt32) (dlc : UInt8) (data : Bytes)
  (isExtended isRtr : Bool) (hdata : ∀ src ∈ some data, min dlc.toNat 8 ≤ src.length)
  (tsUs : UInt64)

/-- The frame a crafted record should decode to. -/
def craftedFrame : CANFrame R where
  canId := (canId &&& (if isExtended then 0x1FFFFFFF else 0x7FF)).toNat
  data := data.take (min dlc.toNat 8)
  dlc := (min dlc.toNat 8 : ℕ)
  isExtended := isExtended
  isError := false
  isRtr := isRtr
  timestamp := (tsUs.toNat : R) / 1000000.0

/-- A record that carries a crafted frame decodes to it. -/
theorem Carries.unpackBinaryFrame {p : IpcFrame}
    (h : Carries p (canCraftFrame canId dlc (some data) isExtended isRtr hdata) tsUs) (hts : 0 < tsUs) :
    unpackBinaryFrame o now (p.bytes o) =
      .ok (craftedFrame canId dlc data isExtended isRtr tsUs) := by
  have hpos : 0 < tsUs.toNat := UInt64.lt_iff_toNat_lt.mp hts
  have hdlc := canCraftFrame_canDlc canId dlc (some data) isExtended isRtr hdata
  have hbit : ∀ b : Bool, decide ((if b then (1 : UInt8) else 0) ≠ 0) = b := by decide
  rw [unpackBinaryFrame_bytes, h.timestampUs, h.canId, h.dlc, h.data, h.isExtended, h.isError,
    h.isRtr, canCraftFrame_maskedId, canCraftFrame_effFlag, canCraftFrame_errFlag,
    canCraftFrame_rtrFlag, hdlc, canCraftFrame_data, if_pos hpos, hbit, hbit,
    craftedFrame]
  congr 2
  omega

/-- **The C encoders and the Python decoder agree.** For every frame crafted from a
buffer that holds its payload and every positive timestamp, the record of the
sniffer and the record of the bridge (whatever its memory held before) both decode
to the frame that was asked for. Moreover every 24-byte string decodes to a frame
whose data has the length of its DLC, at most eight. -/
theorem crafted_record_round_trip (hts : 0 < tsUs) (pkt : IpcFrame) :
    let f := canCraftFrame canId dlc (some data) isExtended isRtr hdata
    let frame : CANFrame R := craftedFrame canId dlc data isExtended isRtr tsUs
    unpackBinaryFrame o now ((snifferPack f tsUs).bytes o) = .ok frame ∧
      unpackBinaryFrame o now ((bridgePack pkt f tsUs).bytes o) = .ok frame ∧
      ∀ raw : Bytes, raw.length = 24 → ∃ decoded : CANFrame R,
        CanSentinel.unpackBinaryFrame o now raw = .ok decoded ∧
          (decoded.data.length : ℤ) = decoded.dlc ∧ decoded.dlc ≤ 8 := by
  have hdlc8 : (canCraftFrame canId dlc (some data) isExtended isRtr hdata).canDlc.toNat ≤ 8 :=
    (canCraftFrame_canDlc canId dlc (some data) isExtended isRtr hdata).trans_le (min_le_right _ _)
  refine ⟨?_, ?_, fun raw hraw => ⟨_, unpackBinaryFrame_of_length o now hraw,
    length_recordFrame o now hraw⟩⟩
  · exact (carries_snifferPack _ tsUs hdlc8).unpackBinaryFrame o now canId dlc data isExtended
      isRtr hdata tsUs hts
  · exact (carries_bridgePack pkt _ tsUs).unpackBinaryFrame o now canId dlc data isExtended
      isRtr hdata tsUs hts

end RoundTrip

theorem crafted_record_round_trip_extended :
    unpackBinaryFrame .little (0 : ℚ)
        ((snifferPack (canCraftFrame 0x98DB33F1 12 (some [2, 1, 12, 0, 0, 0, 0, 0]) true false
          (by decide)) 1500000).bytes .little) =
      .ok (craftedFrame 0x98DB33F1 12 [2, 1, 12, 0, 0, 0, 0, 0] true false 1500000) :=
  (crafted_record_round_trip .little (0 : ℚ) 0x98DB33F1 12 [2, 1, 12, 0, 0, 0, 0, 0] true false
    (by decide) 1500000 (by decide)
    ⟨7, 7, 7, .zero 8, 7, 7, 7⟩).1

end C

end CanSentinel
