import CanSentinel.Ipc.Sender

/-!
# Losing the peer (`c/sniffer.c`)

A write on a stream whose peer has closed raises `SIGPIPE`. `main` installs handlers for
`SIGINT` and `SIGTERM` only, so the sniffer meets that signal with the disposition it was
started with, and its write-failure branch is reached only if that is not the default.

- `writeToPeer`: the outcome of a write, or the end of the process.
- `Capture.loop`: the capture loop among reads and the closing of the peer.
- `Capture.survives_of_safe`, `Capture.killed_of_closed`: the runs that no write can end,
  and the runs that meet the closed peer.
- `survives_peer_loss_iff`: which runs end after exactly the frames asked for.
-/

namespace CanSentinel.C

/-! ## Signals -/

inductive Signal where
  | sigint
  | sigterm
  | sigpipe
deriving DecidableEq

inductive Disposition where
  | default
  | ignored
  | handled
deriving DecidableEq

/-- What a process does with its signals. -/
structure SignalState where
  disposition : Signal → Disposition
  blocked : Signal → Bool

/-- `signal(SIGINT, handle_sigint)` and `signal(SIGTERM, handle_sigint)`, in a process that
has inherited the rest. -/
def installHandlers (inherited : SignalState) : SignalState :=
  { inherited with
    disposition := Function.update (Function.update inherited.disposition .sigint .handled)
      .sigterm .handled }

/-- `SIGPIPE` terminates the process. -/
def SignalState.killedByPipe (signals : SignalState) : Bool :=
  signals.disposition .sigpipe = .default ∧ signals.blocked .sigpipe = false

/-- The handlers change nothing for `SIGPIPE`. -/
@[simp] theorem killedByPipe_installHandlers (inherited : SignalState) :
    (installHandlers inherited).killedByPipe = inherited.killedByPipe := rfl

/-- A write of a record: `io` while the peer is there, and `none` if the process ends. -/
def writeToPeer (signals : SignalState) (peerOpen : Bool) (io : WriteResult) :
    Option WriteResult :=
  if peerOpen then some io else if signals.killedByPipe then none else some .failed

/-! ## The capture loop -/

/-- What happens in the life of the sniffer: a read, and the peer closing the stream. -/
inductive CaptureEvent where
  | read (read : SnifferRead)
  | peerCloses

/-- The sniffer, its peer, and whether a signal has ended the process. -/
structure Capture where
  sniffer : Sniffer
  peerOpen : Bool
  killed : Bool

namespace Capture

/-- The loop is entered, with a stream if the connection succeeded. -/
def start (connected : Bool) : Capture := ⟨⟨0, connected, []⟩, true, false⟩

/-- What the loop does with a frame. -/
def forward (signals : SignalState) (s : Capture) (frame : CanFrame) (tsUs : UInt64)
    (io : WriteResult) : Capture :=
  if s.sniffer.ipcSock then
    match writeToPeer signals s.peerOpen io with
    | some io => { s with sniffer := s.sniffer.forward frame tsUs io }
    | none =>
      { s with
        sniffer := { s.sniffer with packetsCaptured := s.sniffer.packetsCaptured + 1 }
        killed := true }
  else { s with sniffer := s.sniffer.forward frame tsUs io }

/-- The loop of `main` with the count limit `maxCount`. -/
def loop (signals : SignalState) (maxCount : ℕ) (s : Capture) : List CaptureEvent → Capture
  | [] => s
  | .peerCloses :: events => loop signals maxCount { s with peerOpen := false } events
  | .read read :: events =>
    if maxCount = 0 ∨ s.sniffer.packetsCaptured < maxCount then
      match read with
      | .failed => s
      | .short => loop signals maxCount s events
      | .frame f tsUs io =>
        let s := s.forward signals f tsUs io
        if s.killed then s else loop signals maxCount s events
    else s

end Capture

/-! ## A frame -/

section Forward

variable (frame : CanFrame) (tsUs : UInt64) (io : WriteResult)

/-- Every frame is counted. -/
theorem Sniffer.packetsCaptured_forward (s : Sniffer) :
    (s.forward frame tsUs io).packetsCaptured = s.packetsCaptured + 1 := by
  unfold Sniffer.forward
  dsimp only
  by_cases hsock : s.ipcSock = true
  · rw [if_pos hsock]
    cases io <;> rfl
  · rw [if_neg hsock]

/-- The stream is given up when a write fails. -/
theorem Sniffer.ipcSock_forward (s : Sniffer) :
    (s.forward frame tsUs io).ipcSock = (s.ipcSock && decide (io ≠ .failed)) := by
  unfold Sniffer.forward
  dsimp only
  by_cases hsock : s.ipcSock = true
  · rw [if_pos hsock, hsock]
    cases io <;> rfl
  · rw [if_neg hsock]
    rw [Bool.not_eq_true] at hsock
    rw [hsock]
    rfl

namespace Capture

variable {signals : SignalState} {s : Capture}

theorem forward_open (h : s.peerOpen = true) : s.forward signals frame tsUs io =
    { s with sniffer := s.sniffer.forward frame tsUs io } := by
  rw [forward, writeToPeer, if_pos h]
  exact ite_self _

/-- No write can end the process: nothing is written, or the signal is not deadly. -/
structure Safe (signals : SignalState) (s : Capture) : Prop where
  alive : s.killed = false
  harmless : s.sniffer.ipcSock = false ∨ signals.killedByPipe = false

theorem Safe.forward (h : Safe signals s) : Safe signals (s.forward signals frame tsUs io) ∧
    (s.forward signals frame tsUs io).sniffer.packetsCaptured =
      s.sniffer.packetsCaptured + 1 := by
  obtain ⟨halive, hharmless⟩ := h
  unfold Capture.forward
  by_cases hsock : s.sniffer.ipcSock = true
  · have hpipe : signals.killedByPipe = false := hharmless.resolve_left (by simp [hsock])
    have hwrite : writeToPeer signals s.peerOpen io =
        some (if s.peerOpen then io else .failed) := by
      rw [writeToPeer, hpipe]
      cases s.peerOpen <;> rfl
    rw [if_pos hsock, hwrite]
    exact ⟨⟨halive, .inr hpipe⟩, Sniffer.packetsCaptured_forward ..⟩
  · rw [if_neg hsock]
    refine ⟨⟨halive, .inl ?_⟩, Sniffer.packetsCaptured_forward ..⟩
    rw [Sniffer.ipcSock_forward, Bool.not_eq_true _ |>.mp hsock]
    rfl

/-- A write to a peer that is gone. -/
theorem forward_closed (hsock : s.sniffer.ipcSock = true) (hclosed : s.peerOpen = false)
    (hpipe : signals.killedByPipe = true) : (s.forward signals frame tsUs io).killed = true := by
  rw [forward, if_pos hsock, writeToPeer, hclosed, if_neg Bool.false_ne_true, if_pos hpipe]

end Capture

end Forward

/-! ## The loop -/

namespace Capture

variable {signals : SignalState} {maxCount : ℕ} {s : Capture}

/-- At the limit no event is read. -/
theorem loop_done (h : ¬ (maxCount = 0 ∨ s.sniffer.packetsCaptured < maxCount))
    (read : SnifferRead) (events : List CaptureEvent) :
    s.loop signals maxCount (.read read :: events) = s := by
  unfold loop
  rw [if_neg h]

theorem loop_short (h : maxCount = 0 ∨ s.sniffer.packetsCaptured < maxCount)
    (events : List CaptureEvent) :
    s.loop signals maxCount (.read .short :: events) = s.loop signals maxCount events := by
  conv_lhs => unfold loop
  rw [if_pos h]

/-- A frame below the limit is handled, and the loop goes on if the process is alive. -/
theorem loop_frame (h : maxCount = 0 ∨ s.sniffer.packetsCaptured < maxCount) (f : CanFrame)
    (tsUs : UInt64) (io : WriteResult) (events : List CaptureEvent) :
    s.loop signals maxCount (.read (.frame f tsUs io) :: events) =
      if (s.forward signals f tsUs io).killed then s.forward signals f tsUs io
      else (s.forward signals f tsUs io).loop signals maxCount events := by
  conv_lhs => unfold loop
  rw [if_pos h]

theorem loop_frame_open (h : maxCount = 0 ∨ s.sniffer.packetsCaptured < maxCount)
    (hopen : s.peerOpen = true) (halive : s.killed = false) (f : CanFrame) (tsUs : UInt64)
    (io : WriteResult) (events : List CaptureEvent) :
    s.loop signals maxCount (.read (.frame f tsUs io) :: events) =
      { s with sniffer := s.sniffer.forward f tsUs io }.loop signals maxCount events := by
  rw [loop_frame h, forward_open f tsUs io hopen, if_neg (by simp [halive])]

/-- The process has ended by itself, after as many frames as were asked for. -/
structure Survives (maxCount : ℕ) (s : Capture) : Prop where
  alive : s.killed = false
  count : s.sniffer.packetsCaptured = maxCount

end Capture

/-- A frame is read. -/
def CaptureEvent.isFrame : CaptureEvent → Bool
  | .read (.frame _ _ _) => true
  | _ => false

/-- A frame is read whose write fails although the peer is there. -/
def CaptureEvent.writeFails : CaptureEvent → Bool
  | .read (.frame _ _ .failed) => true
  | _ => false

/-- The peer closes the stream. -/
def CaptureEvent.isClose : CaptureEvent → Bool
  | .peerCloses => true
  | _ => false

/-- No read of the socket fails. -/
def NoReadError (events : List CaptureEvent) : Prop := CaptureEvent.read .failed ∉ events

/-- The number of frames to be read. -/
def frameCount (events : List CaptureEvent) : ℕ := events.countP CaptureEvent.isFrame

/-- The events before the peer closes the stream. -/
def whileOpen (events : List CaptureEvent) : List CaptureEvent :=
  events.takeWhile fun event => !event.isClose

theorem frameCount_frame (f : CanFrame) (tsUs : UInt64) (io : WriteResult)
    (events : List CaptureEvent) :
    frameCount (.read (.frame f tsUs io) :: events) = frameCount events + 1 :=
  List.countP_cons_of_pos rfl

theorem whileOpen_read (read : SnifferRead) (events : List CaptureEvent) :
    whileOpen (.read read :: events) = .read read :: whileOpen events := rfl

theorem NoReadError.tail {event : CaptureEvent} {events : List CaptureEvent}
    (h : NoReadError (event :: events)) : NoReadError events :=
  fun hmem => h (List.mem_cons_of_mem _ hmem)

namespace Capture

variable {signals : SignalState} {maxCount : ℕ} {s : Capture} {events : List CaptureEvent}

/-- When no write can end the process, it captures all the frames asked for. -/
theorem survives_of_safe (hsafe : Safe signals s) (hreads : NoReadError events)
    (hmax : 0 < maxCount) (hle : s.sniffer.packetsCaptured ≤ maxCount)
    (henough : maxCount ≤ s.sniffer.packetsCaptured + frameCount events) :
    Survives maxCount (s.loop signals maxCount events) := by
  induction events generalizing s with
  | nil => exact ⟨hsafe.alive, le_antisymm hle henough⟩
  | cons event events ih =>
    cases event with
    | peerCloses => exact ih ⟨hsafe.alive, hsafe.harmless⟩ hreads.tail hle henough
    | read read =>
      by_cases hmore : s.sniffer.packetsCaptured < maxCount
      · cases read with
        | failed => exact absurd List.mem_cons_self hreads
        | short =>
          rw [loop_short (.inr hmore)]
          exact ih hsafe hreads.tail hle henough
        | frame f tsUs io =>
          obtain ⟨hsafe', hcount⟩ := hsafe.forward f tsUs io
          rw [frameCount_frame] at henough
          rw [loop_frame (.inr hmore), if_neg (by simp [hsafe'.alive])]
          exact ih hsafe' hreads.tail (by omega) (by omega)
      · rw [loop_done (by omega)]
        exact ⟨hsafe.alive, by omega⟩

/-- At the limit no more is read. -/
theorem survives_of_count (halive : s.killed = false)
    (hcount : s.sniffer.packetsCaptured = maxCount) (hmax : 0 < maxCount) :
    Survives maxCount (s.loop signals maxCount events) := by
  induction events generalizing s with
  | nil => exact ⟨halive, hcount⟩
  | cons event events ih =>
    cases event with
    | peerCloses => exact ih (s := { s with peerOpen := false }) halive hcount
    | read read =>
      rw [loop_done (by omega)]
      exact ⟨halive, hcount⟩

/-- A connected process that has frames left when its peer is gone is killed. -/
theorem killed_of_closed (hsock : s.sniffer.ipcSock = true) (hclosed : s.peerOpen = false)
    (hpipe : signals.killedByPipe = true) (hreads : NoReadError events)
    (hlt : s.sniffer.packetsCaptured < maxCount) (hframes : 0 < frameCount events) :
    (s.loop signals maxCount events).killed = true := by
  induction events generalizing s with
  | nil => cases hframes
  | cons event events ih =>
    cases event with
    | peerCloses => exact ih hsock rfl hreads.tail hlt hframes
    | read read =>
      cases read with
      | failed => exact absurd List.mem_cons_self hreads
      | short =>
        rw [loop_short (.inr hlt)]
        exact ih hsock hclosed hreads.tail hlt hframes
      | frame f tsUs io =>
        have hkilled := forward_closed f tsUs io hsock hclosed hpipe
        rw [loop_frame (.inr hlt), if_pos hkilled]
        exact hkilled

/-- A process that has given up the stream while the peer was there survives. -/
theorem survives_of_write_failed (halive : s.killed = false) (hreads : NoReadError events)
    (hmore : s.sniffer.packetsCaptured < maxCount) (f : CanFrame) (tsUs : UInt64)
    (henough : maxCount ≤ s.sniffer.packetsCaptured + (frameCount events + 1)) :
    Survives maxCount
      ({ s with sniffer := s.sniffer.forward f tsUs .failed }.loop signals maxCount events) := by
  have hcount := Sniffer.packetsCaptured_forward f tsUs .failed s.sniffer
  have hgone : (s.sniffer.forward f tsUs .failed).ipcSock = false := by
    rw [Sniffer.ipcSock_forward]
    simp
  refine survives_of_safe ⟨halive, .inl hgone⟩ hreads (by omega) ?_ ?_
  · show (s.sniffer.forward f tsUs .failed).packetsCaptured ≤ maxCount
    omega
  · show maxCount ≤ (s.sniffer.forward f tsUs .failed).packetsCaptured + frameCount events
    omega

/-- **From a connected state**: the frames asked for come before the peer is gone, or the
stream has been given up by then. -/
theorem survives_iff_of_connected (hsock : s.sniffer.ipcSock = true) (hopen : s.peerOpen = true)
    (halive : s.killed = false) (hpipe : signals.killedByPipe = true)
    (hreads : NoReadError events) (hmax : 0 < maxCount)
    (hle : s.sniffer.packetsCaptured ≤ maxCount)
    (henough : maxCount ≤ s.sniffer.packetsCaptured + frameCount events) :
    Survives maxCount (s.loop signals maxCount events) ↔
      maxCount ≤ s.sniffer.packetsCaptured + frameCount (whileOpen events) ∨
        ∃ event ∈ whileOpen events, event.writeFails = true := by
  induction events generalizing s with
  | nil => exact iff_of_true ⟨halive, le_antisymm hle henough⟩ (.inl henough)
  | cons event events ih =>
    by_cases hmore : s.sniffer.packetsCaptured < maxCount
    · cases event with
      | peerCloses =>
        -- the limit is not reached, so some frame meets the closed peer
        have hframes : frameCount (.peerCloses :: events) = frameCount events := rfl
        have hkilled := killed_of_closed (s := { s with peerOpen := false }) hsock rfl hpipe
          hreads.tail hmore (by omega)
        refine iff_of_false ?_ ?_
        · intro hsurvives
          exact absurd (hsurvives.alive.symm.trans hkilled) (by decide)
        · rintro (hcount | ⟨event, hmem, _⟩)
          · exact absurd hmore (not_lt.mpr hcount)
          · cases hmem
      | read read =>
        rw [whileOpen_read, List.exists_mem_cons_iff]
        cases read with
        | failed => exact absurd List.mem_cons_self hreads
        | short =>
          have hshort : (CaptureEvent.read .short).writeFails = false := rfl
          rw [loop_short (.inr hmore), hshort, Bool.false_eq_true, false_or]
          exact ih hsock hopen halive hreads.tail hle henough
        | frame f tsUs io =>
          rw [frameCount_frame] at henough ⊢
          rw [loop_frame_open (.inr hmore) hopen halive]
          cases io with
          | failed =>
            exact iff_of_true (survives_of_write_failed halive hreads.tail hmore f tsUs henough)
              (.inr (.inl rfl))
          | wrote n pos le =>
            have hcount := Sniffer.packetsCaptured_forward f tsUs (.wrote n pos le) s.sniffer
            have hkept : (s.sniffer.forward f tsUs (.wrote n pos le)).ipcSock = true := by
              rw [Sniffer.ipcSock_forward, hsock]
              rfl
            have hwrote : (CaptureEvent.read (.frame f tsUs (.wrote n pos le))).writeFails = false :=
              rfl
            have hiff := ih (s := { s with sniffer := s.sniffer.forward f tsUs (.wrote n pos le) })
              hkept hopen halive hreads.tail (by dsimp only; omega) (by dsimp only; omega)
            rw [hwrote, Bool.false_eq_true, false_or, hiff]
            dsimp only
            rw [hcount, Nat.add_assoc, Nat.add_comm 1]
    · exact iff_of_true (survives_of_count halive (by omega) hmax) (.inl (by omega))

end Capture

/-- **The sniffer and its peer.** With a limit of `c` frames and at least as many to be
read, the sniffer ends by itself after exactly `c` frames unless it is connected, started
with the default disposition of `SIGPIPE`, and has to write a record to the closed peer
without having given up the stream before. -/
theorem survives_peer_loss_iff (inherited : SignalState) (connected : Bool) {c : ℕ} (hc : 0 < c)
    {events : List CaptureEvent} (hreads : NoReadError events) (hframes : c ≤ frameCount events) :
    Capture.Survives c
        ((Capture.start connected).loop (installHandlers inherited) c events) ↔
      connected = false ∨ inherited.killedByPipe = false ∨ c ≤ frameCount (whileOpen events) ∨
        ∃ event ∈ whileOpen events, event.writeFails = true := by
  have hsignals : (installHandlers inherited).killedByPipe = inherited.killedByPipe :=
    killedByPipe_installHandlers inherited
  have henough : c ≤ (Capture.start connected).sniffer.packetsCaptured + frameCount events := by
    show c ≤ 0 + frameCount events
    omega
  by_cases hsafe : connected = false ∨ inherited.killedByPipe = false
  · refine iff_of_true ?_ (or_assoc.mp (.inl hsafe))
    exact Capture.survives_of_safe ⟨rfl, hsafe.imp_right hsignals.trans⟩ hreads hc
      (Nat.zero_le c) henough
  · rw [← or_assoc, or_iff_right hsafe]
    rw [not_or, Bool.not_eq_false, Bool.not_eq_false] at hsafe
    have hiff := Capture.survives_iff_of_connected (s := Capture.start connected) hsafe.1 rfl rfl
      (hsignals.trans hsafe.2) hreads hc (Nat.zero_le c) henough
    rw [hiff]
    show c ≤ 0 + frameCount (whileOpen events) ∨ _ ↔ _
    rw [Nat.zero_add]

/-- A process started with the default dispositions. -/
def defaultSignals : SignalState := ⟨fun _ => .default, fun _ => false⟩

theorem record_pos : 0 < 24 := by decide

theorem record_le : 24 ≤ 24 := by decide

/-- A frame whose record is written whole. -/
def capturedFrame : CaptureEvent :=
  .read (.frame ⟨0x110, 4, .zero 8⟩ 1 (.wrote 24 record_pos record_le))

theorem survives_peer_loss_late :
    Capture.Survives 1 ((Capture.start true).loop (installHandlers defaultSignals) 1
      [capturedFrame, .peerCloses, capturedFrame]) :=
  (survives_peer_loss_iff defaultSignals true (by decide) (by simp [NoReadError, capturedFrame])
    (by decide)).mpr (.inr (.inr (.inl (by decide))))

/-- The peer closes the stream before the second of two frames. -/
theorem killed_by_peer_loss : ¬ ∀ (inherited : SignalState) (connected : Bool) (c : ℕ), 0 < c →
    ∀ events, NoReadError events → c ≤ frameCount events →
      Capture.Survives c
        ((Capture.start connected).loop (installHandlers inherited) c events) := by
  intro hall
  have halive := (hall defaultSignals true 2 (by decide)
    [capturedFrame, .peerCloses, capturedFrame] (by simp [NoReadError, capturedFrame])
    (by decide)).alive
  revert halive
  decide

end CanSentinel.C
