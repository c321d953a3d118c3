import CanSentinel.Attacks.Suite
import CanSentinel.Broadcast.MultiDemo
import CanSentinel.Detection.Verdicts
import CanSentinel.Sim.NativePhysics

/-!
# The native injector (`c/attack_injector.c`)

The C counterpart of the attack suite writes its frames to a socket. The sniffer and the
bridge pass what is on the bus to Python.

- `AttackArgs.read`, `withDefaults`: the command line.
- `attackFrame`: the frame of an iteration, for each mode.
- `loop`: the main loop; `loop_spec`: which iterations it makes, and what it sends.
- `native_attack_arrives`: what Python gets for each frame that is sent.
- `native_attack_verdicts`: what the alert engine says about it.
- `simulated_or_attack`: which attacks can be told from the C simulator's traffic.
-/

namespace CanSentinel.C

open CANAttackSuite StreamAnomalyDetector

/-! ## The command line -/

/-- `attack_mode_t`. -/
inductive AttackMode where
  | flood
  | spoofBrake
  | spoofEngine
  | fuzzing
  | replay
deriving DecidableEq

/-- The comparisons of `optarg` for `-m`. -/
def attackModeOf (optarg : String) : Option AttackMode :=
  if optarg = "flood" then some .flood
  else if optarg = "spoof-brake" then some .spoofBrake
  else if optarg = "spoof-engine" then some .spoofEngine
  else if optarg = "fuzz" then some .fuzzing
  else if optarg = "replay" then some .replay
  else none

/-- What `getopt_long` returns in turn, with the number that `optarg` stands for. `other` is an
option that changes neither the frames nor their number: `-i`, `-r`, `-v`. -/
inductive AttackOption where
  | mode (optarg : String)
  | id (targetId : UInt32)
  | count (maxCount : UInt64)
  | duration (durationSec : Int64)
  | other
  | help
  | unknown

/-- The variables of `main` that the options set. -/
structure AttackArgs where
  mode : AttackMode
  targetId : UInt32
  customId : Bool
  maxCount : UInt64
  durationSec : Int64

namespace AttackArgs

/-- Their values before the option loop. -/
def init : AttackArgs := ⟨.flood, 0x000, false, 1000, 0⟩

/-- The option loop; an error is what `main` returns. -/
def read (args : AttackArgs) : List AttackOption → Except ℕ AttackArgs
  | [] => .ok args
  | .mode optarg :: opts =>
    match attackModeOf optarg with
    | some mode => read { args with mode := mode } opts
    | none => .error 1
  | .id targetId :: opts => read { args with targetId := targetId, customId := true } opts
  | .count maxCount :: opts => read { args with maxCount := maxCount } opts
  | .duration durationSec :: opts => read { args with durationSec := durationSec } opts
  | .other :: opts => read args opts
  | .help :: _ => .error 0
  | .unknown :: _ => .error 1

/-- The defaults of the mode. -/
def withDefaults (args : AttackArgs) : AttackArgs :=
  if args.customId then args
  else
    { args with
      targetId := match args.mode with
        | .flood => 0x000
        | .spoofBrake => canIdBrakeOverride
        | .spoofEngine => canIdEngineRpm
        | .fuzzing => 0x100
        | .replay => args.targetId }

end AttackArgs

/-! ## The main loop -/

/-- The frame of an iteration in which `rand()` returns `rand 0`, `rand 1`, …. -/
def attackFrame (mode : AttackMode) (targetId : UInt32) (rand : ℕ → ℕ) : CanFrame :=
  match mode with
  | .flood => ⟨targetId &&& canSffMask, 8, .zero 8⟩
  | .spoofBrake => ⟨canIdBrakeOverride, 6, ⟨[100, 0x01, 0x00, 0x00, 0x00, 0x00, 0, 0], rfl⟩⟩
  | .spoofEngine => ⟨canIdEngineRpm, 4, ⟨[0x00, 0x00, 0x00, 0x00, 0, 0, 0, 0], rfl⟩⟩
  | .fuzzing =>
    { canId := UInt32.ofNat (rand 0 % 0x7FE + 1) &&& canSffMask
      canDlc := UInt8.ofNat (rand 1 % 8 + 1)
      data := ⟨(List.range 8).map fun b : ℕ =>
        if b < rand 1 % 8 + 1 then UInt8.ofNat (rand (2 + b) % 256) else 0, rfl⟩ }
  | .replay =>
    let erraticRpm := UInt16.ofNat (6000 + rand 0 % 1500)
    ⟨canIdEngineRpm, 4, ⟨highLow erraticRpm ++ [100, 0x01, 0, 0, 0, 0], rfl⟩⟩

/-- What an iteration meets: the random numbers, whether the frame is written, and the time
after that. -/
structure AttackRound where
  rand : ℕ → ℕ
  written : Bool
  now : UInt64

namespace AttackArgs

/-- The test that breaks the loop. -/
def expired (args : AttackArgs) (startTime : UInt64) (round : AttackRound) : Bool :=
  0 < args.durationSec && args.durationSec.toUInt64 ≤ (round.now - startTime) / 1000000

/-- The loop of `main` from the moment when `count` frames have been sent, with the frames it
sends; a signal stops it at the end of the list. -/
def loop (args : AttackArgs) (startTime : UInt64) : ℕ → List AttackRound → List CanFrame
  | _, [] => []
  | count, round :: rounds =>
    if args.maxCount = 0 ∨ count < args.maxCount.toNat then
      let frame := attackFrame args.mode args.targetId round.rand
      let sent := if round.written then [frame] else []
      if args.expired startTime round then sent
      else sent ++ loop args startTime (count + sent.length) rounds
    else []

variable (args : AttackArgs) (startTime : UInt64)

/-- After the iterations `made`, from `count` on, the loop is left. -/
def Stops (count : ℕ) (made : List AttackRound) : Prop :=
  (args.maxCount ≠ 0 ∧ args.maxCount.toNat ≤ count + made.countP AttackRound.written) ∨
    ∃ round ∈ made.getLast?, args.expired startTime round = true

/-- The frames of the iterations whose write succeeds. -/
def framesSent (made : List AttackRound) : List CanFrame :=
  (made.filter AttackRound.written).map fun round =>
    attackFrame args.mode args.targetId round.rand

variable {args startTime}

theorem stops_nil_iff (count : ℕ) :
    args.Stops startTime count [] ↔ ¬ (args.maxCount = 0 ∨ count < args.maxCount.toNat) := by
  simp [Stops]

/-- An iteration that does not break the loop. -/
theorem stops_cons_iff {round : AttackRound} (h : ¬ args.expired startTime round = true)
    (count : ℕ) (made : List AttackRound) :
    args.Stops startTime count (round :: made) ↔
      args.Stops startTime (count + if round.written then 1 else 0) made := by
  have hcount : count + (round :: made).countP AttackRound.written =
      (count + if round.written then 1 else 0) + made.countP AttackRound.written := by
    rw [List.countP_cons]
    omega
  unfold Stops
  rw [hcount]
  refine or_congr_right ?_
  cases made with
  | nil => simp [h]
  | cons next made => rw [List.getLast?_cons_cons]

/-- **The loop**: it makes iterations until it is to be left, or the signal comes, and sends
the frames of those whose write succeeds. -/
theorem loop_spec (args : AttackArgs) (startTime : UInt64) (count : ℕ)
    (rounds : List AttackRound) :
    ∃ made rest, rounds = made ++ rest ∧
      args.loop startTime count rounds = args.framesSent made ∧
      (rest ≠ [] → args.Stops startTime count made) ∧
      ∀ pre post, made = pre ++ post → post ≠ [] → ¬ args.Stops startTime count pre := by
  induction rounds generalizing count with
  | nil =>
    refine ⟨[], [], rfl, rfl, fun h => absurd rfl h, fun pre post hsplit hpost => ?_⟩
    exact absurd (List.append_eq_nil_iff.mp hsplit.symm).2 hpost
  | cons round rounds ih =>
    rw [loop]
    by_cases hmore : args.maxCount = 0 ∨ count < args.maxCount.toNat
    · rw [if_pos hmore]
      have hnil : ¬ args.Stops startTime count [] := by
        rw [stops_nil_iff]
        exact not_not.mpr hmore
      dsimp only
      by_cases hexpired : args.expired startTime round = true
      · rw [if_pos hexpired]
        refine ⟨[round], rounds, rfl, ?_, fun _ => .inr ⟨round, rfl, hexpired⟩, ?_⟩
        · rw [framesSent, List.filter_singleton]
          cases round.written <;> rfl
        · intro pre post hsplit hpost
          rcases List.singleton_eq_append_iff.mp hsplit with ⟨rfl, _⟩ | ⟨_, rfl⟩
          · exact hnil
          · exact absurd rfl hpost
      · rw [if_neg hexpired]
        obtain ⟨made, rest, rfl, hloop, hstop, hfirst⟩ :=
          ih (count + if round.written then 1 else 0)
        refine ⟨round :: made, rest, rfl, ?_, ?_, ?_⟩
        · rw [framesSent, List.filter_cons]
          rw [framesSent] at hloop
          cases hwritten : round.written with
          | true =>
            rw [hwritten] at hloop
            exact congrArg _ hloop
          | false =>
            rw [hwritten] at hloop
            exact hloop
        · rw [stops_cons_iff hexpired]
          exact hstop
        · intro pre post hsplit hpost
          cases pre with
          | nil => exact hnil
          | cons first pre =>
            rw [List.cons_append, List.cons.injEq] at hsplit
            obtain ⟨rfl, rfl⟩ := hsplit
            rw [stops_cons_iff hexpired]
            exact hfirst pre post rfl hpost
    · rw [if_neg hmore]
      refine ⟨[], round :: rounds, rfl, rfl, fun _ => (stops_nil_iff count).mpr hmore, ?_⟩
      intro pre post hsplit hpost
      exact absurd (List.append_eq_nil_iff.mp hsplit.symm).2 hpost

/-- The limit is kept. -/
theorem length_loop_le (hmax : args.maxCount ≠ 0) (rounds : List AttackRound) :
    (args.loop startTime 0 rounds).length ≤ args.maxCount.toNat := by
  obtain ⟨made, rest, _, hloop, _, hfirst⟩ := loop_spec args startTime 0 rounds
  rw [hloop, framesSent, List.length_map, ← List.countP_eq_length_filter]
  cases made using List.reverseRecOn with
  | nil => exact Nat.zero_le _
  | append_singleton made round =>
    have hnot := hfirst made [round] rfl (List.cons_ne_nil _ _)
    rw [Stops, not_or, not_and, Nat.zero_add, not_le] at hnot
    refine le_trans ?_ (hnot.1 hmax)
    rw [List.countP_append, Nat.succ_eq_add_one]
    exact Nat.add_le_add_left List.countP_le_length _

theorem mem_loop {f : CanFrame} {rounds : List AttackRound}
    (h : f ∈ args.loop startTime 0 rounds) :
    ∃ rand, f = attackFrame args.mode args.targetId rand := by
  obtain ⟨made, rest, _, hloop, _⟩ := loop_spec args startTime 0 rounds
  rw [hloop, framesSent] at h
  obtain ⟨round, _, rfl⟩ := List.mem_map.mp h
  exact ⟨round.rand, rfl⟩

end AttackArgs

/-! ## Arrival in Python -/

section Arrival

variable {R : Type} [PyFloat R]

/-- The records of the sniffer and of the bridge, stamped `tsUs`, both decode to `frame`. -/
def ArrivesAs (o : ByteOrder) (tsUs : UInt64) (f : CanFrame) (frame : CANFrame R) : Prop :=
  ∀ (now : R) (pkt : IpcFrame),
    unpackBinaryFrame o now ((snifferPack f tsUs).bytes o) = .ok frame ∧
      unpackBinaryFrame o now ((bridgePack pkt f tsUs).bytes o) = .ok frame

/-- What a frame with an 11-bit id decodes to. -/
def standardFrame (f : CanFrame) (tsUs : UInt64) : CANFrame R where
  canId := f.canId.toNat
  data := f.data.1.take f.canDlc.toNat
  dlc := f.canDlc.toNat
  isExtended := false
  isError := false
  isRtr := false
  timestamp := (tsUs.toNat : R) / 1000000.0

theorem flag_of_standard {f : CanFrame} (h : f.canId &&& canSffMask = f.canId) {flag : UInt32}
    (hflag : canSffMask &&& flag = 0) : f.canId &&& flag = 0 := by
  rw [← h, UInt32.and_assoc, hflag, UInt32.and_zero]

theorem Carries.unpack_standard {p : IpcFrame} {f : CanFrame} {tsUs : UInt64}
    (h : Carries p f tsUs) (hid : f.canId &&& canSffMask = f.canId) (hdlc : f.canDlc.toNat ≤ 8)
    (hts : 0 < tsUs) (o : ByteOrder) (now : R) :
    CanSentinel.unpackBinaryFrame o now (p.bytes o) = .ok (standardFrame f tsUs) := by
  have heff : f.canId &&& canEffFlag = 0 := flag_of_standard hid rfl
  have herr : f.canId &&& canErrFlag = 0 := flag_of_standard hid rfl
  have hrtr : f.canId &&& canRtrFlag = 0 := flag_of_standard hid rfl
  have hmasked : f.maskedId = f.canId := by
    rw [CanFrame.maskedId, heff, if_neg (not_not.mpr rfl), hid]
  have hflag : ∀ flag, f.canId &&& flag = 0 → f.flag flag = 0 := by
    intro flag hzero
    rw [CanFrame.flag, hzero, if_neg (not_not.mpr rfl)]
  have hpos : 0 < tsUs.toNat := UInt64.lt_iff_toNat_lt.mp hts
  have hmin : (min f.canDlc.toNat 8 : ℤ) = f.canDlc.toNat := min_eq_left (by exact_mod_cast hdlc)
  rw [unpackBinaryFrame_bytes, h.timestampUs, h.canId, h.dlc, h.data, h.isExtended, h.isError,
    h.isRtr, hmasked, hflag _ heff, hflag _ herr, hflag _ hrtr, if_pos hpos, hmin]
  rfl

theorem arrivesAs_standard (o : ByteOrder) {f : CanFrame} {tsUs : UInt64}
    (hid : f.canId &&& canSffMask = f.canId) (hdlc : f.canDlc.toNat ≤ 8) (hts : 0 < tsUs) :
    ArrivesAs o tsUs f (standardFrame f tsUs : CANFrame R) := fun now pkt =>
  ⟨(carries_snifferPack f tsUs hdlc).unpack_standard hid hdlc hts o now,
    (carries_bridgePack pkt f tsUs).unpack_standard hid hdlc hts o now⟩

/-- What the frames of a mode are in the words of the Python suite, which has no replay. -/
def AttackMode.Means (mode : AttackMode) (targetId : UInt32) (now : R) (frame : CANFrame R) : Prop :=
  match mode with
  | .flood => frame = craftFloodFrame ((targetId &&& canSffMask).toNat : ℤ) now
  | .spoofBrake => craftSpoofBrakeFrame 100 true now = .ok frame
  | .spoofEngine => craftSpoofEngineKillFrame now = .ok frame
  | .fuzzing => ∃ draw, frame = craftFuzzingFrame draw now
  | .replay => ∃ rpm : ℕ, (6000 ≤ rpm ∧ rpm < 7500) ∧
      frame.canId = CanSentinel.canIdEngineRpm ∧ frame.dlc = 4 ∧ frame.timestamp = now ∧
      decodeSignals frame.canId frame.payload =
        (.ok [("rpm", .int rpm), ("throttle_pct", .int 100), ("engine_status", .str "RUNNING")] :
          Except PyError (Signals R))

theorem toNat_fuzzedId (n : ℕ) :
    (UInt32.ofNat (n % 0x7FE + 1) &&& canSffMask).toNat = n % 0x7FE + 1 := by
  rw [UInt32.toNat_and, UInt32.toNat_ofNat']
  refine (Nat.and_two_pow_sub_one_eq_mod _ 11).trans ?_
  omega

theorem toNat_fuzzedDlc (n : ℕ) : (UInt8.ofNat (n % 8 + 1)).toNat = n % 8 + 1 := by
  rw [UInt8.toNat_ofNat']
  omega

/-- The payload that the fuzzing loop fills in. -/
theorem take_fuzzed (rand : ℕ → ℕ) {n : ℕ} (h : n ≤ 8) :
    ((List.range 8).map fun b : ℕ => if b < n then UInt8.ofNat (rand (2 + b) % 256) else 0).take n =
      (List.range n).map fun b : ℕ => UInt8.ofNat (rand (2 + b) % 256) := by
  rw [← List.map_take, List.take_range, min_eq_left h]
  refine List.map_congr_left fun b hb => if_pos (List.mem_range.mp hb)

/-- What the fuzzing mode draws. -/
def fuzzDraw (rand : ℕ → ℕ) : FuzzDraw where
  randId := (rand 0 % 0x7FE + 1 : ℕ)
  data := (List.range (rand 1 % 8 + 1)).map fun b : ℕ => UInt8.ofNat (rand (2 + b) % 256)
  randId_mem := by omega
  length_mem := by
    rw [List.length_map, List.length_range]
    omega

theorem attackFrame_standard (mode : AttackMode) (targetId : UInt32) (rand : ℕ → ℕ) :
    (attackFrame mode targetId rand).canId &&& canSffMask =
        (attackFrame mode targetId rand).canId ∧
      (attackFrame mode targetId rand).canDlc.toNat ≤ 8 := by
  cases mode with
  | flood =>
    refine ⟨?_, (by decide : (8 : UInt8).toNat ≤ 8)⟩
    rw [attackFrame, UInt32.and_assoc, UInt32.and_self]
  | spoofBrake =>
    exact ⟨(by decide : canIdBrakeOverride &&& canSffMask = canIdBrakeOverride),
      (by decide : (6 : UInt8).toNat ≤ 8)⟩
  | spoofEngine =>
    exact ⟨(by decide : canIdEngineRpm &&& canSffMask = canIdEngineRpm),
      (by decide : (4 : UInt8).toNat ≤ 8)⟩
  | fuzzing =>
    refine ⟨by rw [attackFrame, UInt32.and_assoc, UInt32.and_self], ?_⟩
    rw [attackFrame, UInt8.toNat_ofNat']
    omega
  | replay =>
    exact ⟨(by decide : canIdEngineRpm &&& canSffMask = canIdEngineRpm),
      (by decide : (4 : UInt8).toNat ≤ 8)⟩

/-- **Each mode's frame, decoded.** -/
theorem means_attackFrame (mode : AttackMode) (targetId : UInt32) (rand : ℕ → ℕ)
    (tsUs : UInt64) :
    mode.Means targetId ((tsUs.toNat : R) / 1000000.0)
      (standardFrame (attackFrame mode targetId rand) tsUs) := by
  cases mode with
  | flood => rfl
  | spoofBrake => rfl
  | spoofEngine => rfl
  | fuzzing =>
    have hlength : (fuzzDraw rand).data.length = rand 1 % 8 + 1 := by
      rw [fuzzDraw, List.length_map, List.length_range]
    have hmin : (min (rand 1 % 8 + 1 : ℕ) 8 : ℤ) = (rand 1 % 8 + 1 : ℕ) := by omega
    refine ⟨fuzzDraw rand, ?_⟩
    rw [standardFrame, attackFrame, craftFuzzingFrame, CANFrame.new, hlength]
    dsimp only
    rw [toNat_fuzzedId, toNat_fuzzedDlc, take_fuzzed rand (by omega), hmin]
    rfl
  | replay =>
    have hrpm : (UInt16.ofNat (6000 + rand 0 % 1500)).toNat = 6000 + rand 0 % 1500 := by
      rw [UInt16.toNat_ofNat']
      omega
    refine ⟨6000 + rand 0 % 1500, by omega, rfl, rfl, rfl, ?_⟩
    have hdecode := MultiDemo.decodeSignals_engine (R := R) (UInt16.ofNat (6000 + rand 0 % 1500)) 100 1
    rw [hrpm] at hdecode
    exact hdecode

/-- **A native attack, seen from Python.** For all settings, every random number, every outcome
of the writes and every reading of the clock: at most `max_count` frames are sent, unless that
is 0, and each frame that is on the bus arrives, through the sniffer and through the bridge, as
the frame that the Python suite crafts for the same attack, with the time of its capture. A
replayed frame arrives as an engine message at 6000 to 7499 rpm. -/
theorem native_attack_arrives (args : AttackArgs) (startTime : UInt64)
    (rounds : List AttackRound) (o : ByteOrder) (tsUs : UInt64) (hts : 0 < tsUs) :
    let sent := args.loop startTime 0 rounds
    (args.maxCount ≠ 0 → sent.length ≤ args.maxCount.toNat) ∧
      ∀ f ∈ sent, ∃ frame : CANFrame R, ArrivesAs o tsUs f frame ∧
        args.mode.Means args.targetId ((tsUs.toNat : R) / 1000000.0) frame := by
  refine ⟨fun hmax => AttackArgs.length_loop_le hmax rounds, fun f hf => ?_⟩
  obtain ⟨rand, rfl⟩ := AttackArgs.mem_loop hf
  obtain ⟨hid, hdlc⟩ := attackFrame_standard args.mode args.targetId rand
  exact ⟨_, arrivesAs_standard o hid hdlc hts, means_attackFrame args.mode args.targetId rand tsUs⟩

/-- One flood frame, captured after 1.5 s. -/
theorem native_attack_arrives_flood :
    ∃ frame : CANFrame ℚ, ArrivesAs .little 1500000 (attackFrame .flood 0 fun _ => 0) frame ∧
      AttackMode.flood.Means 0 (((1500000 : UInt64).toNat : ℚ) / 1000000.0) frame :=
  (native_attack_arrives AttackArgs.init 1000000 [⟨fun _ => 0, true, 0⟩] .little 1500000
    (by decide)).2 _ List.mem_cons_self

end Arrival

/-! ## Verdicts -/

theorem customId_read {opts : List AttackOption} {args args' : AttackArgs}
    (h : args.read opts = .ok args') (hopts : ∀ id, AttackOption.id id ∉ opts) :
    args'.customId = args.customId := by
  induction opts generalizing args with
  | nil =>
    cases h
    rfl
  | cons opt opts ih =>
    have hrest : ∀ id, AttackOption.id id ∉ opts := fun id hid => hopts id (List.mem_cons_of_mem _ hid)
    cases opt with
    | mode optarg =>
      rw [AttackArgs.read] at h
      cases hmode : attackModeOf optarg with
      | none =>
        rw [hmode] at h
        cases h
      | some mode =>
        rw [hmode] at h
        exact (ih h hrest :)
    | id targetId => exact absurd List.mem_cons_self (hopts targetId)
    | count maxCount | duration durationSec | other =>
      rw [AttackArgs.read] at h
      exact (ih h hrest :)
    | help => cases h
    | unknown => cases h

section Verdicts

variable {U : Type} {env : AlertEnv ℝ}
  {alertCallbacks : List (Callback PyError U (SecurityAlert ℝ))}
  {slidingWindowSize threatWindowSize : ℕ} {alerts : AlertSystem ℝ U}
  {pre : List (DetectorCall ℝ)} {call : DetectorCall ℝ} {alert : SecurityAlert ℝ}

/-- **From the command line to the alert.** The injector runs without `-d`. If one of its
frames arrives at a detector with an alert engine, after any other traffic, and an alert is
returned for it, then: in flood mode it is a critical flood; in the spoofing modes and in replay
it is a critical flood if the last frame of the id is less than 0.8 ms old (or there was none),
and otherwise spoofing of the brakes or of the engine; in fuzzing mode it reports fuzzing
exactly if there was such a gap and the payload has seven or eight different bytes. -/
theorem native_attack_verdicts {opts : List AttackOption} {args : AttackArgs}
    (hread : AttackArgs.init.read opts = .ok args) (hopts : ∀ id, AttackOption.id id ∉ opts)
    {startTime : UInt64} {rounds : List AttackRound} {f : CanFrame}
    (hf : f ∈ args.withDefaults.loop startTime 0 rounds) {o : ByteOrder} {tsUs : UInt64}
    (hts : 0 < tsUs) (harrives : ArrivesAs o tsUs f call.2)
    (h : alertAfter env alertCallbacks slidingWindowSize threatWindowSize alerts pre call =
      some alert) :
    let gap := gapBefore pre call
    match args.mode with
    | .flood => alert.attackType = .dosBusFlood ∧ alert.severity = .critical
    | .spoofBrake => (alert.attackType, alert.severity) =
        if gap < 0.0008 then (.dosBusFlood, .critical) else (.criticalBrakeSpoofing, .critical)
    | .spoofEngine | .replay => (alert.attackType, alert.severity) =
        if gap < 0.0008 then (.dosBusFlood, .critical) else (.enginePowertrainSpoofing, .high)
    | .fuzzing => alert.attackType = .payloadFuzzingAttack ↔
        0.0008 ≤ gap ∧ 7 ≤ call.2.data.length ∧ call.2.data.Nodup := by
  have hcustom : args.customId = false := customId_read hread hopts
  have hdefaults : args.withDefaults.mode = args.mode := by
    rw [AttackArgs.withDefaults, hcustom]
    rfl
  obtain ⟨rand, rfl⟩ := AttackArgs.mem_loop hf
  obtain ⟨hid, hdlc⟩ := attackFrame_standard args.withDefaults.mode args.withDefaults.targetId rand
  -- both records decode to one frame only
  have hcall : standardFrame (attackFrame args.withDefaults.mode args.withDefaults.targetId rand)
      tsUs = call.2 :=
    Except.ok.inj (((arrivesAs_standard o hid hdlc hts 0 ⟨0, 0, 0, .zero 8, 0, 0, 0⟩).1).symm.trans
      (harrives 0 ⟨0, 0, 0, .zero 8, 0, 0, 0⟩).1)
  have hmeans := means_attackFrame (R := ℝ) args.withDefaults.mode args.withDefaults.targetId rand
    tsUs
  rw [hcall, hdefaults] at hmeans
  dsimp only
  cases hmode : args.mode with
  | flood =>
    rw [hmode] at hmeans
    have htarget : args.withDefaults.targetId = 0 := by
      rw [AttackArgs.withDefaults, hcustom, hmode]
      rfl
    refine flood_verdict h ?_
    rw [show call.2 = _ from hmeans, htarget]
    rfl
  | spoofBrake =>
    rw [hmode] at hmeans
    exact brake_verdict h hmeans
  | spoofEngine =>
    rw [hmode] at hmeans
    obtain ⟨payload, _, hframe⟩ := bind_eq_ok_iff.mp hmeans
    have hframe := Except.ok.inj hframe
    exact engine_verdict h (by rw [← hframe]; rfl) (by rw [← hframe]; rfl)
  | fuzzing =>
    rw [hmode] at hmeans
    obtain ⟨draw, hframe⟩ := hmeans
    rw [fuzzing_verdict h hframe, hframe]
    rfl
  | replay =>
    rw [hmode] at hmeans
    obtain ⟨rpm, _, hreplayed, hlength, _⟩ := hmeans
    exact engine_verdict h hreplayed hlength

end Verdicts

/-- A frame of `attack_injector -m spoof-brake`, captured at `tsUs` and flagged. -/
noncomputable def flaggedNative (tsUs : UInt64) : DetectorCall ℝ :=
  (fun _ => .ok (-1, 1), standardFrame (attackFrame .spoofBrake 0 fun _ => 0) tsUs)

/-- `attack_injector -m spoof-brake -c 5`, whose second frame arrives a second after the first. -/
theorem native_attack_verdicts_second :
    ∃ alert, ArrivesAs .little 2000000 (attackFrame .spoofBrake 0 fun _ => 0)
        (flaggedNative 2000000).2 ∧
      alertAfter (.healthy ℝ) [] 50 20 (AlertSystem.new 100 [] ()) [flaggedNative 1000000]
        (flaggedNative 2000000) = some alert ∧
      (alert.attackType, alert.severity) = (.criticalBrakeSpoofing, .critical) := by
  obtain ⟨hid, hdlc⟩ := attackFrame_standard .spoofBrake 0 fun _ => 0
  have harrives := arrivesAs_standard (R := ℝ) .little hid hdlc (by decide : 0 < (2000000 : UInt64))
  have hdec : (flaggedNative 2000000).2.Decodes :=
    (CANFrame.decodes_iff _).mpr (not_layout (by decide))
  obtain ⟨alert, halert⟩ := @exists_alertAfter _ _ _ (.healthy ℝ) [] 50 20
    (AlertSystem.new 100 [] ()) [flaggedNative 1000000] _ (by decide) hdec _ (fun _ => rfl) rfl
  have hread : AttackArgs.init.read [.mode "spoof-brake", .count 5] =
      .ok { AttackArgs.init with mode := .spoofBrake, maxCount := 5 } := rfl
  have hf : attackFrame .spoofBrake 0 (fun _ => 0) ∈ AttackArgs.loop
      (AttackArgs.withDefaults { AttackArgs.init with mode := .spoofBrake, maxCount := 5 })
        0 0 [⟨fun _ => 0, true, 0⟩, ⟨fun _ => 0, true, 0⟩] := List.mem_cons_self
  have hgap : ¬ gapBefore [flaggedNative 1000000] (flaggedNative 2000000) < 0.0008 := by
    show ¬ elapsed (some (((1000000 : UInt64).toNat : ℝ) / 1000000.0))
      (((2000000 : UInt64).toNat : ℝ) / 1000000.0) < 0.0008
    have hfirst : (1000000 : UInt64).toNat = 1000000 := rfl
    have hsecond : (2000000 : UInt64).toNat = 2000000 := rfl
    rw [hfirst, hsecond, elapsed_of_le (by norm_num)]
    norm_num
  have hverdict := @native_attack_verdicts _ _ _ 50 20 _ _ _ _ _ _ hread (by simp) _ _ _ hf _ _
    (by decide) harrives halert
  dsimp only at hverdict
  rw [if_neg hgap] at hverdict
  exact ⟨alert, harrives, halert, hverdict⟩

/-! ## Attacks and the simulator's traffic -/

/-- What the frames of the C simulator have in common on the wire. -/
structure Plausible (wire : ℤ × ℤ × Bytes) : Prop where
  id : 0x001 ≤ wire.1 ∧ wire.1 ≤ 0x7FE
  dlc : wire.2.1 = wire.2.2.length
  length : 1 ≤ wire.2.2.length ∧ wire.2.2.length ≤ 6
  brake : wire.1 = 0x0A0 → ∃ brakeVal rest, wire.2.2 = brakeVal :: rest ∧ brakeVal.toNat ≤ 50
  engine : wire.1 = 0x110 →
    ∃ high low throttleVal, wire.2.2 = [high, low, throttleVal, 1] ∧ throttleVal.toNat ≤ 60

section Traffic

variable {R : Type} [PyFloat R]

/-- The frames of an iteration of every ECU thread. -/
def simulatedFrames (vehicle : VehicleState R) (tick : Int32) : List CanFrame :=
  engineEcuThread vehicle tick ++ transmissionEcuThread vehicle ++ brakeEcuThread vehicle ++
    bodyEcuThread vehicle tick

theorem castU8_toNat_le {x : R} {n : ℕ} (h0 : 0 ≤ x) (hle : x ≤ n) (hn : n < 256) :
    (castU8 x).toNat ≤ n := by
  have hlow : 0 ≤ pyInt x := le_pyInt (by exact_mod_cast h0)
  have hhigh : pyInt x ≤ n := pyInt_le (by exact_mod_cast hle)
  have hcast := u8_toNat_ofInt (n := pyInt x) ⟨hlow, by omega⟩
  rw [castU8]
  omega

/-- A crafted frame of another id than those of the brakes and the engine. -/
theorem plausible_craft {canId : UInt32} {dlc : UInt8} {k : ℕ} {payload : ByteArray k}
    (h : dlc.toNat = k) (hk : 1 ≤ k ∧ k ≤ 6)
    (hid : 0x001 ≤ (canId &&& canSffMask).toNat ∧ (canId &&& canSffMask).toNat ≤ 0x7FE)
    (hbrake : (canId &&& canSffMask).toNat = 0x0A0 →
      ∃ brakeVal rest, payload.1 = brakeVal :: rest ∧ brakeVal.toNat ≤ 50)
    (hengine : (canId &&& canSffMask).toNat = 0x110 →
      ∃ high low throttleVal, payload.1 = [high, low, throttleVal, 1] ∧ throttleVal.toNat ≤ 60) :
    Plausible (craft canId dlc payload h).wire := by
  rw [craft_wire canId dlc payload h (by omega)]
  refine ⟨by dsimp only; omega, ?_, ?_, fun hb => hbrake (by dsimp only at hb; omega),
    fun he => hengine (by dsimp only at he; omega)⟩
  · rw [payload.2]
  · rw [payload.2]
    exact hk

theorem plausible_simulated {vehicle : VehicleState R} (h : vehicle.Simulated) (tick : Int32)
    {f : CanFrame} (hf : f ∈ simulatedFrames vehicle tick) : Plausible f.wire := by
  have hbrake := castU8_toNat_le (n := 50) h.brakePct.1 (by exact_mod_cast h.brakePct.2) (by norm_num)
  have hthrottle := castU8_toNat_le (n := 60) h.throttlePct.1 (by exact_mod_cast h.throttlePct.2)
    (by norm_num)
  simp only [simulatedFrames, engineEcuThread, transmissionEcuThread, brakeEcuThread,
    bodyEcuThread, List.mem_append, List.mem_ite_nil_right, List.mem_singleton] at hf
  rcases hf with ((((rfl | ⟨_, rfl⟩) | ⟨_, rfl⟩) | rfl) | rfl) | (rfl | ⟨_, rfl⟩) | rfl
  · exact plausible_craft rfl (by decide) (by decide) (fun h => absurd h (by decide))
      fun _ => ⟨_, _, _, rfl, hthrottle⟩
  · exact plausible_craft rfl (by decide) (by decide) (fun h => absurd h (by decide))
      fun h => absurd h (by decide)
  · exact plausible_craft rfl (by decide) (by decide) (fun h => absurd h (by decide))
      fun h => absurd h (by decide)
  · exact plausible_craft rfl (by decide) (by decide) (fun h => absurd h (by decide))
      fun h => absurd h (by decide)
  · exact plausible_craft rfl (by decide) (by decide) (fun _ => ⟨_, _, rfl, hbrake⟩)
      fun h => absurd h (by decide)
  · exact plausible_craft rfl (by decide) (by decide) (fun h => absurd h (by decide))
      fun h => absurd h (by decide)
  · exact plausible_craft rfl (by decide) (by decide) (fun h => absurd h (by decide))
      fun h => absurd h (by decide)
  · exact plausible_craft rfl (by decide) (by decide) (fun h => absurd h (by decide))
      fun h => absurd h (by decide)

/-- The random numbers with which the fuzzing mode sends a given frame. -/
def fuzzedInto (wire : ℤ × ℤ × Bytes) : ℕ → ℕ
  | 0 => wire.1.toNat - 1
  | 1 => wire.2.2.length - 1
  | b + 2 => (wire.2.2.getD b 0).toNat

/-- The fuzzing mode can send every plausible frame. -/
theorem wire_fuzzedInto {wire : ℤ × ℤ × Bytes} (h : Plausible wire) (targetId : UInt32) :
    (attackFrame .fuzzing targetId (fuzzedInto wire)).wire = wire := by
  obtain ⟨canId, dlc, data⟩ := wire
  obtain ⟨⟨hid1, hid⟩, hdlc, ⟨hlen1, hlen⟩, _, _⟩ := h
  dsimp only at hid1 hid hdlc hlen1 hlen
  have hfuzzedId : fuzzedInto (canId, dlc, data) 0 % 0x7FE + 1 = canId.toNat := by
    show (canId.toNat - 1) % 0x7FE + 1 = canId.toNat
    omega
  have hfuzzedDlc : fuzzedInto (canId, dlc, data) 1 % 8 + 1 = data.length := by
    show (data.length - 1) % 8 + 1 = data.length
    omega
  have hdata : (List.range data.length).map (fun b : ℕ =>
      UInt8.ofNat (fuzzedInto (canId, dlc, data) (2 + b) % 256)) = data := by
    refine List.ext_getElem (by rw [List.length_map, List.length_range]) fun i hi hi' => ?_
    rw [List.getElem_map, List.getElem_range, Nat.add_comm, fuzzedInto, List.getD_eq_getElem _ _ hi',
      Nat.mod_eq_of_lt (UInt8.toNat_lt _), UInt8.ofNat_toNat]
  rw [CanFrame.wire, attackFrame]
  dsimp only
  rw [toNat_fuzzedId, toNat_fuzzedDlc, hfuzzedId, hfuzzedDlc, take_fuzzed _ (by omega), hdata, hdlc,
    Int.toNat_of_nonneg (by omega)]

/-- The other modes send none. -/
theorem not_plausible_attackFrame {attack : AttackMode} (hattack : attack ≠ .fuzzing)
    (targetId : UInt32) (rand : ℕ → ℕ) :
    ¬ Plausible (attackFrame attack targetId rand).wire := by
  intro h
  cases attack with
  | fuzzing => exact hattack rfl
  | flood => exact absurd h.length.2 (by decide : ¬ 8 ≤ 6)
  | spoofBrake =>
    obtain ⟨brakeVal, rest, hdata, hle⟩ := h.brake rfl
    obtain ⟨rfl, _⟩ := List.cons.inj hdata
    exact absurd hle (by decide)
  | spoofEngine =>
    obtain ⟨high, low, throttleVal, hdata, _⟩ := h.engine rfl
    cases hdata
  | replay =>
    obtain ⟨high, low, throttleVal, hdata, hle⟩ := h.engine rfl
    cases hdata
    exact absurd hle (by decide)

/-- **Which attacks look like traffic.** In every mode of the C simulator, after any number of
passes, for every frame that an ECU thread sends: flooding, spoofing and replay never put the
same frame on the wire, whatever the target id; fuzzing can. -/
theorem simulated_or_attack {sin : R → R} (hsin : ∀ x, -1 ≤ sin x ∧ sin x ≤ 1) (mode : SimMode)
    (k : ℕ) (tick : Int32) {f : CanFrame}
    (hf : f ∈ simulatedFrames (PhysicsThread.after sin mode k).vehicle tick)
    (attack : AttackMode) (targetId : UInt32) :
    (∃ rand, (attackFrame attack targetId rand).wire = f.wire) ↔ attack = .fuzzing := by
  have hplausible := plausible_simulated (PhysicsThread.after_simulated hsin mode k) tick hf
  constructor
  · rintro ⟨rand, hwire⟩
    by_contra hattack
    exact not_plausible_attackFrame hattack targetId rand (hwire ▸ hplausible)
  · rintro rfl
    exact ⟨_, wire_fuzzedInto hplausible targetId⟩

theorem simulated_or_attack_lights :
    (∃ rand, (attackFrame .fuzzing 0x100 rand).wire =
      (craft canIdLighting 2 (lightPayload (PhysicsThread.after Real.sin .highway 3).vehicle)
        rfl).wire) ↔ AttackMode.fuzzing = .fuzzing :=
  simulated_or_attack (fun x => ⟨Real.neg_one_le_sin x, Real.sin_le_one x⟩) .highway 3 0
    (List.mem_append_right _ (List.mem_append_right _ (List.mem_singleton_self _))) .fuzzing 0x100

end Traffic

end CanSentinel.C
