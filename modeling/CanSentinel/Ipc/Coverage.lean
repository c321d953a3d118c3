import CanSentinel.Detection.StreamDetector
import CanSentinel.Ipc.Server

/-!
# Coverage: which packets the detector sees

A detector subscribed to the IPC server counts the frames it has processed, the
server the frames it has dispatched. `_dispatch_frame` swallows what a subscriber
raises, so a frame the detector cannot process leaves no trace but the difference
of the two counters.

- `Covered`: a record of any id but the transmission's, or with fewer than four
  payload bytes. The transmission layout raises on all other records.
- `scoreCall_record_isOk_iff`: `process_frame` returns on exactly these.
- `packets_covered_iff`: the counters agree after every dispatch if and only if
  every packet is covered.
-/

namespace CanSentinel

variable {R V : Type} [PyFloat R]

open StreamAnomalyDetector

/-- `detector.process_frame` as a frame subscriber. -/
def detectorCallback (predictSingle : PredictSingle R)
    (callbacks : List (Callback PyError V (DetectionResult R))) :
    Callback PyError (StreamAnomalyDetector R × Subscribers V (DetectionResult R)) (CANFrame R) :=
  fun frame world =>
    let (out, world) := processFrame predictSingle callbacks world frame
    (out.map fun _ => (), world)

/-- One turn of a client thread's inner loop, seen from the server: unpack a packet
with the clock at `packet.1` and dispatch it. -/
def CANIPCServer.receive {W : Type} (o : ByteOrder)
    (callbacks : List (Callback PyError W (CANFrame R))) (self : CANIPCServer R W)
    (packet : R × Bytes) : CANIPCServer R W :=
  match unpackBinaryFrame o packet.1 packet.2 with
  | .ok frame => self.dispatchFrame callbacks frame
  | .error _ => self

/-- A record outside the reach of the transmission layout. -/
def Covered (o : ByteOrder) (raw : Bytes) : Prop :=
  ¬ ((recordCanId o raw : ℤ) = canIdTransmission ∧ 4 ≤ recordDlc o raw)

instance (o : ByteOrder) (raw : Bytes) : Decidable (Covered o raw) :=
  inferInstanceAs (Decidable (¬ _))

/-- A decoded record can be parsed exactly when it is covered. -/
theorem decodes_recordFrame_iff (o : ByteOrder) (now : R) {raw : Bytes} (h : raw.length = 24) :
    (recordFrame o now raw).Decodes ↔ Covered o raw := by
  have hdata : ((raw.drop 13).take 8).length = 8 := by
    rw [List.length_take, List.length_drop]
    omega
  have hlen : 4 ≤ (recordFrame o now raw).payload.length ↔ 4 ≤ recordDlc o raw := by
    show 4 ≤ (pySlice (((raw.drop 13).take 8).take (recordDlc o raw))
      (min (recordDlc o raw : ℤ) 8)).length ↔ _
    rw [pySlice_of_nonneg _ (by omega), List.length_take, List.length_take, hdata]
    omega
  rw [CANFrame.decodes_iff, hlen]
  rfl

/-- Reachable states stay reachable. -/
theorem StreamAnomalyDetector.Reachable.scoreCall {slidingWindowSize threatWindowSize : ℕ}
    {d : StreamAnomalyDetector R} (h : Reachable slidingWindowSize threatWindowSize d)
    (call : DetectorCall R) :
    Reachable slidingWindowSize threatWindowSize (d.scoreCall call).2 := by
  obtain ⟨calls, rfl⟩ := h
  exact ⟨calls ++ [call], (Machine.final_concat _ _ _ _).symm⟩

variable (o : ByteOrder) {predictSingle : PredictSingle R}
  (callbacks : List (Callback PyError V (DetectionResult R)))

/-- **One packet.** With a model that always answers, a reachable detector processes
exactly the covered records. -/
theorem scoreCall_record_isOk_iff (hpredict : ∀ features, (predictSingle features).isOk)
    {d : StreamAnomalyDetector R} (hd : Reachable 50 20 d) (now : R) {raw : Bytes}
    (hraw : raw.length = 24) :
    (d.scoreCall (predictSingle, recordFrame o now raw)).1.isOk ↔ Covered o raw := by
  rw [scoreCall_isOk_iff, decodes_recordFrame_iff o now hraw, hd.maxlen]
  constructor
  · rintro ⟨hcov, _, _⟩
    exact hcov
  · intro hcov
    exact ⟨hcov, hpredict _, by decide⟩

/-- A call counts its frame exactly when it returns. -/
theorem totalProcessed_scoreCall (d : StreamAnomalyDetector R) (call : DetectorCall R) :
    (d.scoreCall call).2.totalProcessed =
      d.totalProcessed + if (d.scoreCall call).1.isOk then 1 else 0 := by
  cases hout : (d.scoreCall call).1 with
  | error e => exact (scoreCall_of_error hout).2.1
  | ok result =>
    rw [scoreCall_of_ok hout]
    rfl

/-- What a packet does to the server and to the detector behind it. -/
theorem receive_record
    (s : CANIPCServer R (StreamAnomalyDetector R × Subscribers V (DetectionResult R)))
    {packet : R × Bytes} (hraw : packet.2.length = 24) :
    let s' := s.receive o [detectorCallback predictSingle callbacks] packet
    s'.totalFramesReceived = s.totalFramesReceived + 1 ∧
      s'.subs.world.1 =
        (s.subs.world.1.scoreCall (predictSingle, recordFrame o packet.1 packet.2)).2 := by
  dsimp only
  rw [CANIPCServer.receive, unpackBinaryFrame_of_length o packet.1 hraw]
  refine ⟨rfl, ?_⟩
  show (s.subs.notify _ (recordFrame o packet.1 packet.2)).world.1 = _
  rw [Subscribers.notify_world]
  exact processCall_detector callbacks s.subs.world (predictSingle, _)

/-- The counters after a run of packets. -/
theorem counters_receive (hpredict : ∀ features, (predictSingle features).isOk)
    {d : StreamAnomalyDetector R} (hd : Reachable 50 20 d)
    (subs : Subscribers V (DetectionResult R)) (packets : List (R × Bytes))
    (hraw : ∀ packet ∈ packets, packet.2.length = 24) :
    let s := packets.foldl
      (CANIPCServer.receive o [detectorCallback predictSingle callbacks])
      ⟨d.totalProcessed, ⟨(d, subs), []⟩⟩
    Reachable 50 20 s.subs.world.1 ∧
      s.totalFramesReceived = d.totalProcessed + packets.length ∧
      s.subs.world.1.totalProcessed =
        d.totalProcessed + packets.countP fun packet => Covered o packet.2 := by
  dsimp only
  induction packets using List.reverseRecOn with
  | nil => exact ⟨hd, rfl, rfl⟩
  | append_singleton packets packet ih =>
    rw [List.forall_mem_append, List.forall_mem_singleton] at hraw
    obtain ⟨hreach, hreceived, hprocessed⟩ := ih hraw.1
    rw [List.foldl_append, List.foldl_cons, List.foldl_nil]
    generalize packets.foldl _ _ = s at *
    obtain ⟨hreceived', hworld⟩ := receive_record o callbacks s hraw.2
    have hok := scoreCall_record_isOk_iff o hpredict hreach packet.1 hraw.2
    refine ⟨hworld ▸ hreach.scoreCall _, ?_, ?_⟩
    · rw [hreceived', hreceived, List.length_append]
      rfl
    · rw [hworld, totalProcessed_scoreCall, hprocessed, List.countP_append]
      simp only [hok, List.countP_singleton, decide_eq_true_eq, Nat.add_assoc]

/-- **When no frame escapes detection.** For a model that always answers and the
default window sizes: from every reachable state `process_frame` returns on a
24-byte packet if and only if the packet is covered; and along every sequence of
packets the detector's counter equals the server's after every dispatch if and
only if every packet is covered. -/
theorem packets_covered_iff (hpredict : ∀ features, (predictSingle features).isOk)
    {d : StreamAnomalyDetector R} (hd : Reachable 50 20 d)
    (subs : Subscribers V (DetectionResult R)) (packets : List (R × Bytes))
    (hraw : ∀ packet ∈ packets, packet.2.length = 24) :
    (∀ packet ∈ packets,
      (∃ frame result, unpackBinaryFrame o packet.1 packet.2 = .ok frame ∧
        (processFrame predictSingle callbacks (d, subs) frame).1 = .ok result) ↔
      Covered o packet.2) ∧
    ((∀ pre, pre <+: packets →
      let s := pre.foldl (CANIPCServer.receive o [detectorCallback predictSingle callbacks])
        ⟨d.totalProcessed, ⟨(d, subs), []⟩⟩
      s.subs.world.1.totalProcessed = s.totalFramesReceived) ↔
      ∀ packet ∈ packets, Covered o packet.2) := by
  constructor
  · intro packet hpacket
    have hlen := hraw packet hpacket
    have hok := scoreCall_record_isOk_iff o hpredict hd packet.1 hlen
    rw [← hok, isOk_iff, unpackBinaryFrame_of_length o packet.1 hlen]
    constructor
    · rintro ⟨frame, result, hframe, hres⟩
      cases hframe
      exact ⟨result, (processCall_fst callbacks (d, subs) (predictSingle, _)).symm.trans hres⟩
    · rintro ⟨result, hres⟩
      exact ⟨_, result, rfl, (processCall_fst callbacks (d, subs) (predictSingle, _)).trans hres⟩
  · have hcount : ∀ pre, pre <+: packets →
        ((let s := pre.foldl (CANIPCServer.receive o [detectorCallback predictSingle callbacks])
            ⟨d.totalProcessed, ⟨(d, subs), []⟩⟩
          s.subs.world.1.totalProcessed = s.totalFramesReceived) ↔
        ∀ packet ∈ pre, Covered o packet.2) := by
      intro pre hpre
      obtain ⟨_, hreceived, hprocessed⟩ := counters_receive o callbacks hpredict hd subs pre
        fun packet hpacket => hraw packet (hpre.subset hpacket)
      dsimp only
      rw [hreceived, hprocessed, Nat.add_left_cancel_iff, List.countP_eq_length]
      simp only [decide_eq_true_eq]
    constructor
    · intro hall
      exact (hcount packets (List.prefix_refl _)).mp (hall packets (List.prefix_refl _))
    · intro hcov pre hpre
      exact (hcount pre hpre).mpr fun packet hpacket => hcov packet (hpre.subset hpacket)

/-- A packet of four payload bytes, stamped one second after the epoch. -/
def fourBytePacket (canId : ℕ) : Bytes :=
  ByteOrder.little.encode 8 1000000 ++ ByteOrder.little.encode 4 canId ++ [4] ++
    [9, 196, 40, 1, 0, 0, 0, 0] ++ [0, 0, 0]

/-- A fresh server with a fresh detector whose model calls everything normal. -/
def freshServer : CANIPCServer ℚ (StreamAnomalyDetector ℚ × Subscribers Unit (DetectionResult ℚ)) :=
  ⟨0, ⟨(new 50 20, ⟨(), []⟩), []⟩⟩

theorem packets_covered_iff_engine :
    let s := [(0, fourBytePacket 0x110)].foldl
      (CANIPCServer.receive .little [detectorCallback (fun _ => .ok (1, 0)) []]) freshServer
    s.subs.world.1.totalProcessed = s.totalFramesReceived :=
  (packets_covered_iff .little [] (fun _ => rfl) ⟨[], rfl⟩ ⟨(), []⟩ [(0, fourBytePacket 0x110)]
    (by decide)).2.mpr (by decide) _ (List.prefix_refl _)

/-- A gear packet escapes: it is received, and `process_frame` raises on it. -/
theorem gear_packet_escapes :
    let s := [(0, fourBytePacket 0x180)].foldl
      (CANIPCServer.receive .little [detectorCallback (fun _ => .ok (1, 0)) []]) freshServer
    s.totalFramesReceived = 1 ∧ s.subs.world.1.totalProcessed = 0 ∧
      ((unpackBinaryFrame .little 0 (fourBytePacket 0x180)).toOption.map fun frame =>
        (processFrame (fun _ => .ok (1, 0)) [] freshServer.subs.world frame).1) =
      some (.error (.structError "unpack requires a buffer of 5 bytes")) := by
  decide +kernel

end CanSentinel
