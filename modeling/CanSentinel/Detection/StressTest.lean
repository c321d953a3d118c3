import CanSentinel.Bus.VirtualBus
import CanSentinel.Detection.Offline
import CanSentinel.Ipc.Coverage
import CanSentinel.Lib.WorkQueue

/-!
# The stress test (`tests/stress_test.py`)

`run_stress_test` floods the virtual bus from the main thread, while a consumer thread takes
the frames from a subscriber's queue and passes them to a detector with an alert engine.

- `testFrames`: the traffic.
- `StressTest`, `step`: the two threads.
- `Simulates`: the steps are those of a `WorkQueue`; the queue has room for every frame.
- `stress_test_outcome`: the counters when the test has ended.
- `stress_test_ends_iff`: it ends only if no frame but the last is a transmission frame; otherwise
  the consumer can die with frames in its queue, and the main thread waits for ever.
-/

namespace CanSentinel

open StreamAnomalyDetector

/-! ## The program -/

/-- What is drawn for a normal frame. -/
structure NormalDraw where
  canId : ℤ
  data : Bytes
  canId_mem : canId ∈ ([0x110, 0x120, 0x130, 0x180, 0x230] : List ℤ)
  length_data : data.length = 4
  lt_data : ∀ b ∈ data, b < 255

section Frames

variable (R : Type) [PyFloat R] (normal : ℕ → NormalDraw)

/-- Frame number `i` of the test. -/
def testFrame (i : ℕ) : CANFrame R :=
  let timestamp : R := 1000000.0 + i * 0.0001
  if i % 10 = 0 then
    CANFrame.new timestamp 0x000 [0, 0, 0, 0, 0, 0, 0, 0] (some 8) false false false timestamp
  else if i % 25 = 0 then
    CANFrame.new timestamp 0x0A0 [0x64, 0x01, 0, 0, 0, 0] (some 6) false false false timestamp
  else
    CANFrame.new timestamp (normal i).canId (normal i).data (some 4) false false false timestamp

/-- The frames that are generated before the threads start. -/
def testFrames (totalFrames : ℕ) : List (CANFrame R) :=
  (List.range totalFrames).map (testFrame R normal)

end Frames

variable {R : Type} [PyFloat R]

/-- The detector, and the alert engine as its callback. -/
abbrev Pipeline (R : Type) :=
  StreamAnomalyDetector R × Subscribers (AlertSystem R Unit) (DetectionResult R)

/-- The pipeline before the test. -/
def Pipeline.new (log : List (JsonObject R)) : Pipeline R :=
  (StreamAnomalyDetector.new 50 20, ⟨AlertSystem.new 100 log (), []⟩)

/-- `detector.process_frame(frame)` on the consumer thread. -/
def Pipeline.process (predict : PredictSingle R) (env : AlertEnv R) (p : Pipeline R)
    (frame : CANFrame R) : Except PyError (DetectionResult R) × Pipeline R :=
  processCall (AlertSystem.detectionCallbacks env [] [] []) p (predict, frame)

/-- The threads of `run_stress_test` with what they share; the one queue is the subscriber's. -/
structure StressTest (R : Type) where
  testFrames : List (CANFrame R)
  main : MainStage
  consumerRunning : Bool
  bus : VirtualCANBus Unit R
  consumer : WorkerStage (CANFrame R) PyError
  pipeline : Pipeline R
  framesDispatched : ℕ
  droppedFrames : ℕ
  framesProcessed : ℕ

namespace StressTest

/-- The set-up, until the consumer has started. -/
def start (frames : List (CANFrame R)) (pipeline : Pipeline R) : StressTest R where
  testFrames := frames
  main := .sending
  consumerRunning := true
  bus := VirtualCANBus.new.createSubscriber () (frames.length + 5000)
  consumer := .testing
  pipeline := pipeline
  framesDispatched := 0
  droppedFrames := 0
  framesProcessed := 0

/-- `subscriber_queue.empty()`. -/
def queueEmpty (s : StressTest R) : Bool :=
  match s.bus.queues () with
  | none => true
  | some q => q.items.isEmpty

/-- A step of the main thread: the producer loop, the loop that waits for an empty queue, the
flag, the join. -/
def mainStep (s : StressTest R) : Option (StressTest R) :=
  match s.main with
  | .sending =>
    match s.testFrames with
    | frame :: rest =>
      match s.bus.send frame with
      | (.ok (), bus) =>
        some { s with testFrames := rest, bus := bus, framesDispatched := s.framesDispatched + 1 }
      | (.error _, bus) =>
        some { s with testFrames := rest, bus := bus, droppedFrames := s.droppedFrames + 1 }
    | [] => some { s with main := .waiting }
  | .waiting => if s.queueEmpty then some { s with main := .stopping } else some s
  | .stopping => some { s with consumerRunning := false, main := .joining }
  | .joining => if s.consumer.halted then some { s with main := .done true } else none
  | .done _ => none

/-- `process_frame` has returned, or raised out of `consumer_worker`: `queue.Empty` is all it
catches. -/
def afterFrame (s : StressTest R) (frame : CANFrame R) :
    Except PyError (DetectionResult R) × Pipeline R → StressTest R
  | (.ok _, pipeline) =>
    { s with
      pipeline := pipeline
      framesProcessed := s.framesProcessed + 1
      consumer := .testing }
  | (.error e, pipeline) => { s with pipeline := pipeline, consumer := .died frame e }

/-- A step of `consumer_worker`. A `get` that times out goes back to the loop's test. -/
def consumerStep (predict : PredictSingle R) (env : AlertEnv R) (s : StressTest R) :
    Option (StressTest R) :=
  match s.consumer with
  | .testing =>
    if s.consumerRunning || !s.queueEmpty then some { s with consumer := .getting }
    else some { s with consumer := .exited }
  | .getting =>
    match s.bus.queues () with
    | none => none
    | some q =>
      match q.getNowait with
      | none => some { s with consumer := .testing }
      | some (frame, _) => some { s with bus := s.bus.get () q, consumer := .working frame }
  | .working frame => some (s.afterFrame frame (s.pipeline.process predict env frame))
  | .exited => none
  | .died _ _ => none

/-- A step. -/
def step (predict : PredictSingle R) (env : AlertEnv R) (s : StressTest R) :
    WorkEvent → Option (StressTest R)
  | .main => s.mainStep
  | .worker => s.consumerStep predict env
  | .timeout => if s.main = .joining then some { s with main := .done false } else none

end StressTest

/-! ## The bus with its one subscriber -/

/-- An open bus on which `q` is the only queue. -/
structure OneSubscriber (bus : VirtualCANBus Unit R) (q : BoundedQueue (CANFrame R)) : Prop where
  isOpen : bus.isOpen = true
  subscribers : bus.subscribers = [()]
  queue : bus.queues () = some q

omit [PyFloat R] in
theorem oneSubscriber_create (maxsize : ℤ) :
    OneSubscriber ((VirtualCANBus.new : VirtualCANBus Unit R).createSubscriber () maxsize)
      (.empty _ maxsize) where
  isOpen := rfl
  subscribers := rfl
  queue := rfl

omit [PyFloat R] in
theorem OneSubscriber.send {bus : VirtualCANBus Unit R} {q : BoundedQueue (CANFrame R)}
    (h : OneSubscriber bus q) (frame : CANFrame R) :
    bus.send frame = (.ok (), bus.deliver frame) ∧
      OneSubscriber (bus.deliver frame) (q.offer frame) := by
  refine ⟨?_, h.isOpen, h.subscribers, ?_⟩
  · rw [VirtualCANBus.send, VirtualCANBus.openTest, if_pos h.isOpen]
  · rw [VirtualCANBus.deliver, h.subscribers, List.foldl_cons, List.foldl_nil, h.queue]
    rfl

omit [PyFloat R] in
theorem OneSubscriber.get {bus : VirtualCANBus Unit R} {q q' : BoundedQueue (CANFrame R)}
    {frame : CANFrame R} (h : OneSubscriber bus q) (hget : q.getNowait = some (frame, q')) :
    OneSubscriber (bus.get () q) q' := by
  have hbus : bus.get () q =
      { bus with
        queues := Function.update bus.queues () (some q')
        taken := Function.update bus.taken () (bus.taken () ++ [frame]) } := by
    rw [VirtualCANBus.get, hget]
  rw [hbus]
  exact ⟨h.isOpen, h.subscribers, rfl⟩

omit [PyFloat R] in
theorem OneSubscriber.queueEmpty {s : StressTest R} {q : BoundedQueue (CANFrame R)}
    (h : OneSubscriber s.bus q) : s.queueEmpty = q.items.isEmpty := by
  rw [StressTest.queueEmpty, h.queue]

/-! ## Refinement -/

/-- The test is at the abstract state `a`, with `total` frames in all: nothing has been
dropped, and nothing will be. -/
structure Simulates (total : ℕ) (s : StressTest R)
    (a : WorkQueue (Pipeline R) (CANFrame R) PyError) : Prop where
  todo : a.todo = s.testFrames
  main : a.main = s.main
  running : a.running = s.consumerRunning
  worker : a.worker = s.consumer
  state : a.state = s.pipeline
  bus : ∃ q, OneSubscriber s.bus q ∧ q.items = a.queue ∧ q.maxsize = total + 5000
  room : a.queue.length + a.todo.length ≤ total
  dispatched : s.framesDispatched + a.todo.length = total
  dropped : s.droppedFrames = 0
  processed : s.framesProcessed = a.handled.length

omit [PyFloat R] in
theorem simulates_start (frames : List (CANFrame R)) (pipeline : Pipeline R) :
    Simulates frames.length (StressTest.start frames pipeline)
      (WorkQueue.start frames pipeline) where
  todo := rfl
  main := rfl
  running := rfl
  worker := rfl
  state := rfl
  bus := ⟨_, oneSubscriber_create _, rfl, rfl⟩
  room := by
    rw [WorkQueue.start, List.length_nil, Nat.zero_add]
  dispatched := Nat.zero_add _
  dropped := rfl
  processed := rfl

section Steps

variable {predict : PredictSingle R} {env : AlertEnv R} {total : ℕ} {s : StressTest R}
  {a : WorkQueue (Pipeline R) (CANFrame R) PyError}

omit [PyFloat R] in
/-- The main thread. -/
theorem Simulates.mainStep (h : Simulates total s a) :
    Option.Rel (Simulates total) s.mainStep a.mainStep := by
  obtain ⟨frames, main, running, bus, consumer, pipeline, dispatched, dropped, processed⟩ := s
  obtain ⟨todo, main', running', queue, worker, state, handled⟩ := a
  obtain ⟨rfl, rfl, rfl, rfl, rfl, ⟨q, hbus, rfl, hmaxsize⟩, hroom, hdispatched, hdropped,
    hprocessed⟩ := h
  cases main' with
  | sending =>
    cases todo with
    | nil => exact .some ⟨rfl, rfl, rfl, rfl, rfl, ⟨q, hbus, rfl, hmaxsize⟩, hroom, hdispatched,
        hdropped, hprocessed⟩
    | cons frame todo =>
      obtain ⟨hsend, hbus'⟩ := hbus.send frame
      replace hroom : q.items.length + (todo.length + 1) ≤ total := hroom
      replace hdispatched : dispatched + (todo.length + 1) = total := hdispatched
      have hq : q.HasRoom := by
        intro _
        rw [hmaxsize]
        omega
      have hitems : (q.offer frame).items = q.items ++ [frame] := by
        rw [BoundedQueue.offer_items, if_pos hq]
      simp only [StressTest.mainStep, WorkQueue.mainStep, hsend]
      refine .some ⟨rfl, rfl, rfl, rfl, rfl, ⟨_, hbus', hitems, ?_⟩, ?_, ?_, hdropped, hprocessed⟩
      · rw [BoundedQueue.offer_maxsize, hmaxsize]
      · rw [List.length_append, List.length_singleton, Nat.add_assoc, Nat.add_comm 1]
        exact hroom
      · rw [Nat.add_assoc, Nat.add_comm 1]
        exact hdispatched
  | waiting =>
    simp only [StressTest.mainStep, WorkQueue.mainStep, hbus.queueEmpty]
    by_cases hempty : q.items.isEmpty
    · rw [if_pos hempty, if_pos hempty]
      exact .some ⟨rfl, rfl, rfl, rfl, rfl, ⟨q, hbus, rfl, hmaxsize⟩, hroom, hdispatched, hdropped,
        hprocessed⟩
    · rw [if_neg hempty, if_neg hempty]
      exact .some ⟨rfl, rfl, rfl, rfl, rfl, ⟨q, hbus, rfl, hmaxsize⟩, hroom, hdispatched, hdropped,
        hprocessed⟩
  | stopping =>
    exact .some ⟨rfl, rfl, rfl, rfl, rfl, ⟨q, hbus, rfl, hmaxsize⟩, hroom, hdispatched, hdropped,
      hprocessed⟩
  | joining =>
    simp only [StressTest.mainStep, WorkQueue.mainStep]
    by_cases hhalted : worker.halted
    · rw [if_pos hhalted, if_pos hhalted]
      exact .some ⟨rfl, rfl, rfl, rfl, rfl, ⟨q, hbus, rfl, hmaxsize⟩, hroom, hdispatched, hdropped,
        hprocessed⟩
    · rw [if_neg hhalted, if_neg hhalted]
      exact .none
  | done joined => exact .none

/-- The consumer. -/
theorem Simulates.consumerStep (h : Simulates total s a) :
    Option.Rel (Simulates total) (s.consumerStep predict env)
      (a.workerStep (Pipeline.process predict env)) := by
  obtain ⟨frames, main, running, bus, consumer, pipeline, dispatched, dropped, processed⟩ := s
  obtain ⟨todo, main', running', queue, worker, state, handled⟩ := a
  obtain ⟨rfl, rfl, rfl, rfl, rfl, ⟨q, hbus, rfl, hmaxsize⟩, hroom, hdispatched, hdropped,
    hprocessed⟩ := h
  cases worker with
  | testing =>
    simp only [StressTest.consumerStep, WorkQueue.workerStep, hbus.queueEmpty]
    by_cases hloop : (running' || !q.items.isEmpty) = true
    · rw [if_pos hloop, if_pos hloop]
      exact .some ⟨rfl, rfl, rfl, rfl, rfl, ⟨q, hbus, rfl, hmaxsize⟩, hroom, hdispatched, hdropped,
        hprocessed⟩
    · rw [if_neg hloop, if_neg hloop]
      exact .some ⟨rfl, rfl, rfl, rfl, rfl, ⟨q, hbus, rfl, hmaxsize⟩, hroom, hdispatched, hdropped,
        hprocessed⟩
  | getting =>
    have hqueue : bus.queues () = some q := hbus.queue
    simp only [StressTest.consumerStep, WorkQueue.workerStep, hqueue]
    cases hget : q.getNowait with
    | none =>
      rw [BoundedQueue.getNowait_eq_none_iff] at hget
      rw [hget] at hroom ⊢
      exact .some ⟨rfl, rfl, rfl, rfl, rfl, ⟨q, hbus, hget, hmaxsize⟩, hroom, hdispatched, hdropped,
        hprocessed⟩
    | some out =>
      obtain ⟨frame, q'⟩ := out
      obtain ⟨hitems, hsize⟩ := BoundedQueue.getNowait_eq_some hget
      rw [hitems] at hroom ⊢
      refine .some ⟨rfl, rfl, rfl, rfl, rfl, ⟨q', hbus.get hget, rfl, hsize.trans hmaxsize⟩, ?_,
        hdispatched, hdropped, hprocessed⟩
      exact (Nat.add_le_add_right (Nat.le_succ _) _).trans hroom
  | working frame =>
    simp only [StressTest.consumerStep, WorkQueue.workerStep]
    rcases state.process predict env frame with ⟨_ | _, next⟩
    · exact .some ⟨rfl, rfl, rfl, rfl, rfl, ⟨q, hbus, rfl, hmaxsize⟩, hroom, hdispatched, hdropped,
        hprocessed⟩
    · refine .some ⟨rfl, rfl, rfl, rfl, rfl, ⟨q, hbus, rfl, hmaxsize⟩, hroom, hdispatched, hdropped,
        ?_⟩
      rw [StressTest.afterFrame, WorkQueue.afterItem, List.length_append, ← hprocessed]
      rfl
  | exited => exact .none
  | died frame e => exact .none

/-- **Refinement.** -/
theorem Simulates.step (h : Simulates total s a) (e : WorkEvent) :
    Option.Rel (Simulates total) (s.step predict env e)
      (a.step (Pipeline.process predict env) e) := by
  cases e with
  | main => exact h.mainStep
  | worker => exact h.consumerStep
  | timeout =>
    simp only [StressTest.step, WorkQueue.step, h.main]
    by_cases hjoining : s.main = .joining
    · rw [if_pos hjoining, if_pos hjoining]
      exact .some ⟨h.todo, rfl, h.running, h.worker, h.state, h.bus, h.room, h.dispatched,
        h.dropped, h.processed⟩
    · rw [if_neg hjoining, if_neg hjoining]
      exact .none

end Steps

section Runs

variable {predict : PredictSingle R} {env : AlertEnv R} {total : ℕ} {s : StressTest R}
  {a : WorkQueue (Pipeline R) (CANFrame R) PyError} {es : List WorkEvent}

variable (predict env es) in
theorem Simulates.run_rel (h : Simulates total s a) :
    Option.Rel (Simulates total) (Machine.run (StressTest.step predict env) s es)
      (Machine.run (WorkQueue.step (Pipeline.process predict env)) a es) :=
  Machine.run_rel (fun _ _ e h => h.step e) h es

/-- A run of the test is one of the abstract threads. -/
theorem Simulates.run (h : Simulates total s a) {s' : StressTest R}
    (hrun : Machine.run (StressTest.step predict env) s es = some s') :
    ∃ a', Machine.run (WorkQueue.step (Pipeline.process predict env)) a es = some a' ∧
      Simulates total s' a' := by
  have hrel := h.run_rel predict env es
  rw [hrun] at hrel
  exact Machine.exists_of_rel_some hrel

/-- A run of the abstract threads is one of the test. -/
theorem Simulates.run_back (h : Simulates total s a)
    {a' : WorkQueue (Pipeline R) (CANFrame R) PyError}
    (hrun : Machine.run (WorkQueue.step (Pipeline.process predict env)) a es = some a') :
    ∃ s', Machine.run (StressTest.step predict env) s es = some s' ∧ Simulates total s' a' := by
  have hrel := h.run_rel predict env es
  rw [hrun] at hrel
  exact Machine.exists_of_some_rel hrel

end Runs

/-! ## Which calls return -/

section Pipeline

variable (predict : PredictSingle R) (env : AlertEnv R)

/-- The pipeline over frames is the detector's run, as in the other programs. -/
theorem outputs_process (p : Pipeline R) (frames : List (CANFrame R)) :
    Machine.outputs (Pipeline.process predict env) p frames =
      Machine.outputs scoreCall p.1 (modelCalls predict frames) := by
  rw [← outputs_processCall (AlertSystem.detectionCallbacks env [] [] []), modelCalls,
    ← Machine.outputs_comap]
  rfl

theorem final_process (p : Pipeline R) (frames : List (CANFrame R)) :
    Machine.final (Pipeline.process predict env) p frames =
      Machine.final (processCall (AlertSystem.detectionCallbacks env [] [] [])) p
        (modelCalls predict frames) := by
  rw [modelCalls, ← Machine.final_comap]
  rfl

end Pipeline

/-- Which frames of the test can be decoded. -/
theorem testFrame_decodes_iff (normal : ℕ → NormalDraw) (i : ℕ) :
    (testFrame R normal i).Decodes ↔
      (i % 10 ≠ 0 → i % 25 ≠ 0 → (normal i).canId ≠ canIdTransmission) := by
  rw [CANFrame.decodes_iff, testFrame]
  by_cases hflood : i % 10 = 0
  · rw [if_pos hflood]
    have hid : (0x000 : ℤ) ≠ canIdTransmission := by decide
    exact iff_of_true (not_layout hid) fun h => absurd hflood h
  · rw [if_neg hflood]
    by_cases hbrake : i % 25 = 0
    · rw [if_pos hbrake]
      have hid : (0x0A0 : ℤ) ≠ canIdTransmission := by decide
      exact iff_of_true (not_layout hid) fun _ h => absurd hbrake h
    · rw [if_neg hbrake]
      have hpayload : (CANFrame.new (1000000.0 + (i : R) * 0.0001) (normal i).canId (normal i).data
          (some 4) false false false (some (1000000.0 + (i : R) * 0.0001))).payload.length = 4 := by
        rw [CANFrame.payload, CANFrame.new, pySlice_of_nonneg _ (by decide : (0 : ℤ) ≤ min 4 8)]
        exact (List.length_take_of_le (normal i).length_data.ge).trans rfl
      rw [hpayload]
      exact ⟨fun h _ _ hid => h ⟨hid, le_rfl⟩, fun h hid => h hflood hbrake hid.1⟩

/-- The calls return exactly on frames that decode, if the model always answers. -/
theorem outputs_isOk_iff {predict : PredictSingle R} (hpredict : ∀ v, (predict v).isOk)
    (frames : List (CANFrame R)) :
    (∀ r ∈ Machine.outputs scoreCall (new 50 20) (modelCalls predict frames), r.isOk) ↔
      ∀ frame ∈ frames, frame.Decodes := by
  constructor
  · intro hok frame hframe
    exact decodes_of_outputs_isOk hok (predict, frame) (List.mem_map_of_mem hframe)
  · intro hdec r hr
    obtain ⟨pre, call, post, hcalls, rfl⟩ := (Machine.mem_outputs_iff _ _ _ _).mp hr
    have hcall : call ∈ modelCalls predict frames := by
      rw [hcalls]
      exact List.mem_append_right _ List.mem_cons_self
    obtain ⟨frame, hframe, rfl⟩ := List.mem_map.mp hcall
    refine (scoreCall_isOk_iff _ _).mpr ⟨hdec frame hframe, hpredict _, ?_⟩
    rw [Reachable.maxlen ⟨pre, rfl⟩]
    decide

/-- Whether an item before the last raises, in terms of the draws. -/
theorem outputs_testFrames_isOk_iff {predict : PredictSingle R} (hpredict : ∀ v, (predict v).isOk)
    (env : AlertEnv R) (log₀ : List (JsonObject R)) (normal : ℕ → NormalDraw) (totalFrames : ℕ) :
    (∀ r ∈ Machine.outputs (Pipeline.process predict env) (Pipeline.new log₀)
        (testFrames R normal totalFrames).dropLast, r.isOk) ↔
      ∀ i, i + 1 < totalFrames → i % 10 ≠ 0 → i % 25 ≠ 0 →
        (normal i).canId ≠ canIdTransmission := by
  rw [outputs_process]
  refine (outputs_isOk_iff hpredict _).trans ?_
  cases totalFrames with
  | zero => exact iff_of_true (fun _ h => nomatch h) fun _ h => nomatch h
  | succ n =>
    rw [testFrames, List.range_succ, List.map_append, List.map_singleton, List.dropLast_concat,
      List.forall_mem_map]
    refine forall_congr' fun i => ?_
    rw [testFrame_decodes_iff, List.mem_range, Nat.succ_lt_succ_iff]

/-- The test can end with a joined consumer. -/
theorem exists_joined (predict : PredictSingle R) (env : AlertEnv R)
    (log₀ : List (JsonObject R)) (normal : ℕ → NormalDraw) (totalFrames : ℕ)
    (hpredict : ∀ v, (predict v).isOk)
    (hclean : ∀ i, i + 1 < totalFrames → i % 10 ≠ 0 → i % 25 ≠ 0 →
      (normal i).canId ≠ canIdTransmission) :
    ∃ es s, Machine.run (StressTest.step predict env)
      (StressTest.start (testFrames R normal totalFrames) (Pipeline.new log₀)) es = some s ∧
        s.main = .done true := by
  have hok := (outputs_testFrames_isOk_iff hpredict env log₀ normal totalFrames).mpr hclean
  obtain ⟨es, a, hwork, hdone⟩ :=
    (WorkQueue.inv_start _ _ _).can_join (WorkQueue.flagInStep_start _ _) hok (by rintro ⟨⟩)
  obtain ⟨s, hrun, h⟩ := (simulates_start _ _).run_back hwork
  exact ⟨es, s, hrun, h.main.symm.trans hdone⟩

/-! ## The outcome -/

/-- The detector counts the calls that return. -/
theorem totalProcessed_final (d : StreamAnomalyDetector R) (calls : List (DetectorCall R)) :
    (Machine.final scoreCall d calls).totalProcessed =
      d.totalProcessed + (Machine.outputs scoreCall d calls).countP fun r => r.isOk := by
  induction calls generalizing d with
  | nil => rfl
  | cons call calls ih =>
    rw [Machine.final_cons, Machine.outputs_cons, ih, totalProcessed_scoreCall, List.countP_cons]
    omega

/-- **The outcome of the stress test.** In every interleaving that ends with a joined
consumer: every frame has been dispatched, none dropped; the pipeline is in the state that it
reaches when it processes the frames one after the other. Either all frames have been
processed, or all but the last, on which the consumer has died. The engine's alerts are the
detector's anomalies, each with its line in the log. -/
theorem stress_test_outcome (predict : PredictSingle R) (env : AlertEnv R)
    (log₀ : List (JsonObject R)) (frames : List (CANFrame R)) (es : List WorkEvent)
    (s : StressTest R)
    (hlog : ∀ line log, env.appendLine line log = (.ok (), log ++ [line]))
    (hiso : ∀ frame ∈ frames, (env.isoTime frame.timestamp).isOk)
    (hrun : Machine.run (StressTest.step predict env)
      (StressTest.start frames (Pipeline.new log₀)) es = some s)
    (hdone : s.main = .done true) :
    let calls := modelCalls predict frames
    let detector := Machine.final scoreCall (new 50 20) calls
    let sys := s.pipeline.2.world
    s.framesDispatched = frames.length ∧
      s.droppedFrames = 0 ∧
      s.pipeline.1 = detector ∧
      s.framesProcessed = detector.totalProcessed ∧
      ((s.consumer = .exited ∧ s.framesProcessed = frames.length) ∨
        ∃ frame e, frames.getLast? = some frame ∧ s.consumer = .died frame e ∧
          s.framesProcessed + 1 = frames.length) ∧
      sys.engine.alertCounter = detector.totalAnomaliesFlagged ∧
      sys.log.length = log₀.length + detector.totalAnomaliesFlagged := by
  dsimp only
  obtain ⟨a, hwork, h⟩ := (simulates_start frames (Pipeline.new log₀)).run hrun
  have hinv := (WorkQueue.inv_run hwork).1
  have hend : a.main = .done true := h.main.trans hdone
  obtain ⟨hstate, hcount⟩ := hinv.outcome hend
  have htodo := h.dispatched
  rw [hinv.sent (by rw [hend]; decide), List.length_nil, Nat.add_zero] at htodo
  rw [h.state, final_process] at hstate
  rw [outputs_process, ← h.processed] at hcount
  have hprocessed := totalProcessed_final (new 50 20) (modelCalls predict frames)
  have hforensic := forensicState_final env [] [] [] 50 20 () log₀ 100 hlog
    (modelCalls predict frames) (by
      intro call hcall
      obtain ⟨frame, hframe, rfl⟩ := List.mem_map.mp hcall
      exact hiso frame hframe)
  dsimp only at hforensic
  have hcounted := hforensic.counted
  obtain ⟨alerts, hrecorded⟩ := hforensic.recorded
  have halerts := hrecorded.alertsOf.length_eq
  rw [List.length_zipIdx] at halerts
  rw [final_processCall] at hcounted
  have hdetector : s.pipeline.1 =
      Machine.final scoreCall (new 50 20) (modelCalls predict frames) := by
    rw [hstate, final_processCall]
    rfl
  refine ⟨htodo, h.dropped, hdetector, ?_, ?_, ?_, ?_⟩
  · rw [hcount, hprocessed]
    exact (Nat.zero_add _).symm
  · rw [← h.worker, h.processed]
    rcases hinv.ended hend with ⟨hexited, hhandled⟩ | ⟨frame, e, hdied, hhandled⟩
    · exact .inl ⟨hexited, congrArg List.length hhandled⟩
    · refine .inr ⟨frame, e, ?_, hdied, ?_⟩
      · rw [← hhandled, List.getLast?_concat]
      · rw [← hhandled, List.length_append, List.length_singleton]
  · rw [hstate]
    exact hrecorded.counter.trans hcounted.symm
  · rw [hstate, hcounted, halerts]
    exact (congrArg List.length hrecorded.log).trans (by rw [List.length_append, List.length_map])

/-- A draw that decodes. -/
def doorDraw : NormalDraw where
  canId := 0x230
  data := [0, 0, 0, 0]
  canId_mem := by decide
  length_data := rfl
  lt_data := by simp

/-- A draw that does not. -/
def gearDraw : NormalDraw := { doorDraw with canId := 0x180, canId_mem := by decide }

theorem stress_test_outcome_mixed :
    ∃ es s, Machine.run (StressTest.step (fun _ => .ok (-1, -0.2)) (.healthy ℚ))
        (StressTest.start (testFrames ℚ (fun _ => doorDraw) 26) (Pipeline.new [])) es = some s ∧
      s.main = .done true ∧ s.framesDispatched = 26 ∧ s.droppedFrames = 0 ∧
        25 ≤ s.framesProcessed := by
  obtain ⟨es, s, hrun, hdone⟩ :=
    exists_joined (fun _ => .ok (-1, -0.2)) (.healthy ℚ) [] (fun _ => doorDraw) 26 (fun _ => rfl)
      fun _ _ _ _ => by decide
  obtain ⟨hdispatched, hdropped, _, _, hprocessed, _⟩ :=
    stress_test_outcome (fun _ => .ok (-1, -0.2)) (.healthy ℚ) []
      (testFrames ℚ (fun _ => doorDraw) 26) es s (fun _ _ => rfl) (fun _ _ => rfl) hrun hdone
  have hlength : (testFrames ℚ (fun _ => doorDraw) 26).length = 26 := by
    rw [testFrames, List.length_map, List.length_range]
  rw [hlength] at hdispatched hprocessed
  refine ⟨es, s, hrun, hdone, hdispatched, hdropped, ?_⟩
  rcases hprocessed with ⟨_, hall⟩ | ⟨_, _, _, _, hlast⟩ <;> omega

/-! ## Whether it ends -/

/-- The consumer has died with frames in its queue, and the main thread waits for the queue to
be empty. -/
structure StressTest.Stuck (s : StressTest R) : Prop where
  main : s.main = .waiting
  consumer : ∃ frame e, s.consumer = .died frame e
  queue : s.queueEmpty = false

omit [PyFloat R] in
theorem Simulates.stuck {total : ℕ} {s : StressTest R}
    {a : WorkQueue (Pipeline R) (CANFrame R) PyError} (h : Simulates total s a) (hstuck : a.Stuck) :
    s.Stuck where
  main := h.main.symm.trans hstuck.main
  consumer := by
    rw [← h.worker]
    exact hstuck.worker
  queue := by
    obtain ⟨q, hbus, hitems, _⟩ := h.bus
    rw [hbus.queueEmpty, hitems, List.isEmpty_eq_false_iff]
    exact hstuck.queue

/-- Nothing moves any more. -/
theorem StressTest.Stuck.run_eq {predict : PredictSingle R} {env : AlertEnv R}
    {s s' : StressTest R} {es : List WorkEvent} (h : s.Stuck)
    (hrun : Machine.run (StressTest.step predict env) s es = some s') : s' = s := by
  refine Machine.run_inv (I := fun _ t => t = s) rfl ?_ hrun
  rintro _ _ e t rfl hstep
  obtain ⟨hmain, ⟨frame, err, hdied⟩, hqueue⟩ := h
  cases e with
  | main =>
    rw [StressTest.step, StressTest.mainStep, hmain] at hstep
    simpa [hqueue] using hstep.symm
  | worker =>
    rw [StressTest.step, StressTest.consumerStep, hdied] at hstep
    cases hstep
  | timeout =>
    rw [StressTest.step, hmain] at hstep
    cases hstep

/-- **The stress test ends only by luck.** Some interleaving brings the main thread to its end
if and only if no normal frame but the last is drawn with the id of the transmission; then the
main thread can end from every state of every run. Otherwise it never leaves the loop that waits
for an empty queue, and from every state of every run the consumer can die with frames in its
queue, after which nothing moves. -/
theorem stress_test_ends_iff (predict : PredictSingle R) (env : AlertEnv R)
    (log₀ : List (JsonObject R)) (normal : ℕ → NormalDraw) (totalFrames : ℕ)
    (hpredict : ∀ v, (predict v).isOk) :
    let run := Machine.run (StressTest.step predict env)
    let s₀ := StressTest.start (testFrames R normal totalFrames) (Pipeline.new log₀)
    let clean := ∀ i, i + 1 < totalFrames → i % 10 ≠ 0 → i % 25 ≠ 0 →
      (normal i).canId ≠ canIdTransmission
    ((∃ es s joined, run s₀ es = some s ∧ s.main = .done joined) ↔ clean) ∧
      (clean → ∀ es s, run s₀ es = some s →
        ∃ es' s' joined, run s es' = some s' ∧ s'.main = .done joined) ∧
      (¬ clean → ∀ es s, run s₀ es = some s →
        (s.main = .sending ∨ s.main = .waiting) ∧
          ∃ es' s', run s es' = some s' ∧ s'.Stuck ∧
            ∀ es'' s'', run s' es'' = some s'' → s'' = s') := by
  dsimp only
  have hstart := simulates_start (testFrames R normal totalFrames) (Pipeline.new log₀)
  rw [← outputs_testFrames_isOk_iff hpredict env log₀ normal totalFrames]
  refine ⟨?_, ?_, ?_⟩
  · rw [← WorkQueue.finishes_iff]
    constructor
    · rintro ⟨es, s, joined, hrun, hdone⟩
      obtain ⟨a, hwork, h⟩ := hstart.run hrun
      exact ⟨es, a, joined, hwork, h.main.trans hdone⟩
    · rintro ⟨es, a, joined, hwork, hdone⟩
      obtain ⟨s, hrun, h⟩ := hstart.run_back hwork
      exact ⟨es, s, joined, hrun, h.main.symm.trans hdone⟩
  · intro hok es s hrun
    by_cases hjoin : s.main = .done false
    · exact ⟨[], s, false, rfl, hjoin⟩
    · obtain ⟨a, hwork, h⟩ := hstart.run hrun
      obtain ⟨hinv, hflag⟩ := WorkQueue.inv_run hwork
      obtain ⟨es', a', hwork', hdone⟩ := hinv.can_join hflag hok (h.main ▸ hjoin)
      obtain ⟨s', hrun', h'⟩ := h.run_back hwork'
      exact ⟨es', s', true, hrun', h'.main.symm.trans hdone⟩
  · intro hbad es s hrun
    obtain ⟨a, hwork, h⟩ := hstart.run hrun
    obtain ⟨hinv, hflag⟩ := WorkQueue.inv_run hwork
    obtain ⟨es', a', hwork', hstuck⟩ := hinv.can_stick hflag hbad
    obtain ⟨s', hrun', h'⟩ := h.run_back hwork'
    refine ⟨?_, es', s', hrun', h'.stuck hstuck, fun es'' s'' => (h'.stuck hstuck).run_eq⟩
    have hpast : ¬ a.main.Past := fun hpast => hbad (hinv.returned_of_past hpast)
    rw [← h.main]
    cases hmain : a.main with
    | sending => exact .inl rfl
    | waiting => exact .inr rfl
    | stopping | joining | done joined =>
      rw [hmain] at hpast
      exact absurd trivial hpast

/-- The id of the transmission is drawn for the second of three frames. -/
theorem stress_test_ends_iff_hang :
    ¬ ∃ es s joined, Machine.run (StressTest.step (fun _ => .ok (1, 0.1)) (.healthy ℚ))
        (StressTest.start (testFrames ℚ (fun i => if i = 1 then gearDraw else doorDraw) 3)
          (Pipeline.new [])) es = some s ∧ s.main = .done joined := by
  rw [(stress_test_ends_iff (fun _ => .ok (1, 0.1)) (.healthy ℚ) []
    (fun i => if i = 1 then gearDraw else doorDraw) 3 fun _ => rfl).1]
  intro h
  exact h 1 (by decide) (by decide) (by decide) rfl

end CanSentinel
