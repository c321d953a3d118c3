import CanSentinel.Attacks.Suite
import CanSentinel.Lib.StableSort
import CanSentinel.Logger.Datasets
import CanSentinel.Sim.RoundTrip
import CanSentinel.Sim.Timeline

/-!
# The attack data set (`attacks/attack_suite.py`)

`generate_labeled_attack_dataset` merges the normal traffic of a batch with three bursts of
attack frames by time, and logs the merged traffic under its labels.

- `burst`: the frames of an attack; `timeline`: the merged traffic.
- `attack_timeline`: the merge keeps the order of every part.
- `dataset_generators_abort`: from 5 ms of traffic on, no generator completes. The batch
  begins with a frame that the logger's parser cannot decode.
- `attack_dataset_outcome`: when the attack data set is completed, and what is in the file.
-/

namespace CanSentinel

variable {R : Type} [PyFloat R]

open CANAttackSuite CSVTelemetryLogger

/-! ## The events -/

/-- An entry of `all_events`: its time, its frame and its label. -/
abbrev DatasetEvent (R : Type) := R × CANFrame R × String

/-- The entries of the normal traffic. -/
def normalEvents (frames : List (CANFrame R)) : List (DatasetEvent R) :=
  frames.map fun frame => (frame.timestamp, frame, "NORMAL")

/-- The entries of an attack: `count` frames from `start` on, `gap` apart. -/
def burst (count : ℕ) (start gap : R) (label : String) (frameAt : ℕ → R → CANFrame R) :
    List (DatasetEvent R) :=
  (List.range count).map fun i : ℕ =>
    let t := start + (i : R) * gap
    (t, frameAt i t, label)

/-- `base_time`. -/
def baseTime : R := 1000000.0

def floodBurst : List (DatasetEvent R) :=
  burst 600 (baseTime + 8.0) 0.006 "ATTACK_FLOOD" fun _ t =>
    CANFrame.new t 0x000 [0, 0, 0, 0, 0, 0, 0, 0] (some 8) false false false (some t)

def spoofBurst : List (DatasetEvent R) :=
  burst 200 (baseTime + 18.0) 0.02 "ATTACK_SPOOF_BRAKE" fun _ t =>
    CANFrame.new t canIdBrakeOverride [0x64, 0x01, 0, 0, 0, 0] (some 6) false false false (some t)

/-- The draws are those of a fuzzing frame. -/
def fuzzBurst (draws : ℕ → FuzzDraw) : List (DatasetEvent R) :=
  burst 300 (baseTime + 26.0) 0.013 "ATTACK_FUZZING" fun i t =>
    CANFrame.new t (draws i).randId (draws i).data (some (draws i).data.length) false false false
      (some t)

/-- The attacks, in the order in which they are appended. -/
def attackEvents (draws : ℕ → FuzzDraw) : List (DatasetEvent R) :=
  floodBurst ++ (spoofBurst ++ fuzzBurst draws)

/-- `all_events` before it is sorted. -/
def allEvents (frames : List (CANFrame R)) (draws : ℕ → FuzzDraw) : List (DatasetEvent R) :=
  normalEvents frames ++ attackEvents draws

/-- `key=lambda x: x[0]`. -/
def notLater (a b : DatasetEvent R) : Bool := a.1 ≤ b.1

/-- `all_events` after `sort`, which is stable. -/
def timeline (frames : List (CANFrame R)) (draws : ℕ → FuzzDraw) : List (DatasetEvent R) :=
  (allEvents frames draws).mergeSort notLater

/-- `generate_labeled_attack_dataset`. -/
def generateLabeledAttackDataset (math : MathModule R) (totalDurationSec : R)
    (draws : ℕ → FuzzDraw) (disk : ℕ → WriteOutcome) (file : CsvFile) :
    Except PyError ℕ × CsvFile :=
  match generateBatch math totalDurationSec with
  | .error e => (.error e, file)
  | .ok frames =>
    let events := timeline frames draws
    recordDataset (datasetCalls disk (events.map Prod.snd)) (disk events.length) file

/-! ## The merge -/

theorem notLater_trans (a b c : DatasetEvent R) (hab : notLater a b) (hbc : notLater b c) :
    notLater a c := by
  rw [notLater, decide_eq_true_eq] at *
  exact hab.trans hbc

theorem notLater_total (a b : DatasetEvent R) : notLater a b || notLater b a := by
  simpa [notLater] using le_total a.1 b.1

section Burst

variable {count : ℕ} {start gap : R} {label : String} {frameAt : ℕ → R → CANFrame R}

theorem length_burst : (burst count start gap label frameAt).length = count := by
  rw [burst, List.length_map, List.length_range]

/-- The entries of a burst. -/
theorem mem_burst {e : DatasetEvent R} :
    e ∈ burst count start gap label frameAt ↔ ∃ i < count,
      e = (start + (i : R) * gap, frameAt i (start + (i : R) * gap), label) := by
  simp only [burst, List.mem_map, List.mem_range, eq_comm]

/-- The entries of a burst are between its start and its end. -/
theorem burst_time (hgap : 0 ≤ gap) {e : DatasetEvent R}
    (he : e ∈ burst count start gap label frameAt) : start ≤ e.1 ∧ e.1 ≤ start + count * gap := by
  obtain ⟨i, hi, rfl⟩ := mem_burst.mp he
  have hle : (i : R) * gap ≤ count * gap :=
    mul_le_mul_of_nonneg_right (Nat.cast_le.mpr hi.le) hgap
  have hpos : 0 ≤ (i : R) * gap := mul_nonneg (Nat.cast_nonneg i) hgap
  exact ⟨le_add_of_nonneg_right hpos, add_le_add_right hle start⟩

theorem pairwise_burst (hgap : 0 ≤ gap) :
    (burst count start gap label frameAt).Pairwise fun a b => notLater a b := by
  rw [burst, List.pairwise_map]
  refine List.pairwise_lt_range.imp ?_
  intro i j hij
  have hle : (i : R) * gap ≤ j * gap := mul_le_mul_of_nonneg_right (Nat.cast_le.mpr hij.le) hgap
  rw [notLater, decide_eq_true_eq]
  exact add_le_add_right hle start

/-- All entries of a burst have its label. -/
theorem filter_burst (other : String) :
    (burst count start gap label frameAt).filter (fun e => e.2.2 = other) =
      if label = other then burst count start gap label frameAt else [] := by
  by_cases h : label = other
  · rw [if_pos h, List.filter_eq_self]
    intro e he
    obtain ⟨i, _, rfl⟩ := mem_burst.mp he
    simpa using h
  · rw [if_neg h, List.filter_eq_nil_iff]
    intro e he
    obtain ⟨i, _, rfl⟩ := mem_burst.mp he
    simpa using h

end Burst

omit [PyFloat R] in
theorem filter_normalEvents (frames : List (CANFrame R)) (other : String) :
    (normalEvents frames).filter (fun e => e.2.2 = other) =
      if "NORMAL" = other then normalEvents frames else [] := by
  by_cases h : "NORMAL" = other
  · rw [if_pos h, List.filter_eq_self]
    intro e he
    obtain ⟨frame, _, rfl⟩ := List.mem_map.mp he
    simpa using h
  · rw [if_neg h, List.filter_eq_nil_iff]
    intro e he
    obtain ⟨frame, _, rfl⟩ := List.mem_map.mp he
    simpa using h

/-- The attacks follow one another. -/
theorem pairwise_attackEvents (draws : ℕ → FuzzDraw) :
    (attackEvents draws : List (DatasetEvent R)).Pairwise fun a b => notLater a b := by
  have hlater : ∀ a b : DatasetEvent R, ∀ t : R, a.1 ≤ t → t ≤ b.1 → notLater a b := by
    intro a b t ha hb
    rw [notLater, decide_eq_true_eq]
    exact ha.trans hb
  rw [attackEvents, List.pairwise_append, List.pairwise_append]
  refine ⟨pairwise_burst (by norm_num), ⟨pairwise_burst (by norm_num),
    pairwise_burst (by norm_num), ?_⟩, ?_⟩
  · intro a ha b hb
    have hend := (burst_time (by norm_num) ha).2
    have hstart := (burst_time (by norm_num) hb).1
    refine hlater a b _ hend (le_trans ?_ hstart)
    norm_num [baseTime]
  · intro a ha b hb
    have hend := (burst_time (by norm_num) ha).2
    rcases List.mem_append.mp hb with hb | hb
    · refine hlater a b _ hend (le_trans ?_ (burst_time (by norm_num) hb).1)
      norm_num [baseTime]
    · refine hlater a b _ hend (le_trans ?_ (burst_time (by norm_num) hb).1)
      norm_num [baseTime]

/-- The entries of one label, before and after sorting. -/
theorem filter_timeline {frames : List (CANFrame R)}
    (hsorted : frames.Pairwise fun f g => f.timestamp ≤ g.timestamp) (draws : ℕ → FuzzDraw)
    (label : String) :
    (timeline frames draws).filter (fun e => e.2.2 = label) =
      (allEvents frames draws).filter fun e => e.2.2 = label := by
  refine filter_mergeSort notLater_trans notLater_total ?_
  rw [allEvents, List.filter_append, filter_normalEvents]
  by_cases hnormal : "NORMAL" = label
  · have hnone : (attackEvents draws : List (DatasetEvent R)).filter (fun e => e.2.2 = label) =
        [] := by
      rw [← hnormal, attackEvents, List.filter_append, List.filter_append, floodBurst, spoofBurst,
        fuzzBurst, filter_burst, filter_burst, filter_burst]
      rfl
    rw [if_pos hnormal, hnone, List.append_nil, normalEvents, List.pairwise_map]
    simpa [notLater] using hsorted
  · rw [if_neg hnormal, List.nil_append]
    exact (pairwise_attackEvents draws).filter _

/-- **The merged traffic.** For the traffic of every batch and every draw: it is
chronological, has every normal frame and the 1100 attack frames, each stamped with its time,
and the frames of each label are in the order in which they were made. -/
theorem attack_timeline {math : MathModule R} (hsin : math.SinBounded) (totalDurationSec : R)
    (draws : ℕ → FuzzDraw) :
    ∃ frames, generateBatch math totalDurationSec = .ok frames ∧
      let events := timeline frames draws
      events.Pairwise (fun a b => a.1 ≤ b.1) ∧
      (∀ e ∈ events, e.2.1.timestamp = e.1) ∧
      events.length = frames.length + 1100 ∧
      (events.filter fun e => e.2.2 = "NORMAL") = normalEvents frames ∧
      (events.filter fun e => e.2.2 = "ATTACK_FLOOD") = floodBurst ∧
      (events.filter fun e => e.2.2 = "ATTACK_SPOOF_BRAKE") = spoofBurst ∧
      (events.filter fun e => e.2.2 = "ATTACK_FUZZING") = fuzzBurst draws := by
  refine ⟨_, generateBatch_ok hsin totalDurationSec, ?_⟩
  have hsorted := pairwise_batchFrames math (totalSteps totalDurationSec)
  generalize batchFrames math (totalSteps totalDurationSec) = frames at hsorted
  dsimp only
  have hperm : (timeline frames draws).Perm (allEvents frames draws) := List.mergeSort_perm _ _
  refine ⟨?_, ?_, ?_, ?_, ?_, ?_, ?_⟩
  · exact (List.pairwise_mergeSort notLater_trans notLater_total _).imp fun h => by
      simpa [notLater] using h
  · intro e he
    rw [hperm.mem_iff, allEvents, attackEvents, List.mem_append, List.mem_append,
      List.mem_append] at he
    rcases he with he | he | he | he
    · obtain ⟨frame, _, rfl⟩ := List.mem_map.mp he
      rfl
    all_goals
      obtain ⟨i, _, rfl⟩ := mem_burst.mp he
      rfl
  · rw [hperm.length_eq, allEvents, attackEvents, List.length_append, List.length_append,
      List.length_append, normalEvents, List.length_map, floodBurst, spoofBurst, fuzzBurst,
      length_burst, length_burst, length_burst]
  all_goals
    rw [filter_timeline hsorted, allEvents, attackEvents, List.filter_append, List.filter_append,
      List.filter_append, filter_normalEvents, floodBurst, spoofBurst, fuzzBurst, filter_burst,
      filter_burst, filter_burst]
    simp

theorem attack_timeline_real :
    ∃ frames, generateBatch MathModule.real 30 = .ok frames ∧
      ((timeline frames fun _ => ⟨1, [0], by decide, by decide⟩).filter fun e =>
        e.2.2 = "NORMAL") = normalEvents frames := by
  obtain ⟨frames, hbatch, _, _, _, hnormal, _⟩ := attack_timeline MathModule.real_sinBounded 30
    fun _ => ⟨1, [0], by decide, by decide⟩
  exact ⟨frames, hbatch, hnormal⟩

/-! ## No data set is completed -/

/-- Three frames that decode and one that does not: the generator raises before the logger
has written a row, whatever the disk would do. -/
theorem recordDataset_abort (disk : ℕ → WriteOutcome) (closing : WriteOutcome) (file : CsvFile)
    {a b c d : CANFrame R × String} (rest : List (CANFrame R × String)) (ha : a.1.Decodes)
    (hb : b.1.Decodes) (hc : c.1.Decodes) (hd : ¬ d.1.Decodes) :
    recordDataset (datasetCalls disk (a :: b :: c :: d :: rest)) closing file =
      (.error (.structError "unpack requires a buffer of 5 bytes"), datasetHead file) := by
  have hcalls : datasetCalls disk (a :: b :: c :: d :: rest) =
      [⟨a.1, a.2, disk 0⟩, ⟨b.1, b.2, disk 1⟩, ⟨c.1, c.2, disk 2⟩] ++
        ⟨d.1, d.2, disk 3⟩ :: (rest.zipIdx 4).map fun e => ⟨e.1.1, e.1.2, disk e.2⟩ := rfl
  obtain ⟨rows, _, hout⟩ := recordDataset_of_raise file
    [⟨a.1, a.2, disk 0⟩, ⟨b.1, b.2, disk 1⟩, ⟨c.1, c.2, disk 2⟩] ⟨d.1, d.2, disk 3⟩
    ((rest.zipIdx 4).map fun e => ⟨e.1.1, e.1.2, disk e.2⟩) closing
    (by
      intro call hcall
      simp only [List.mem_cons, List.not_mem_nil, or_false] at hcall
      rcases hcall with rfl | rfl | rfl
      · exact ha
      · exact hb
      · exact hc) hd (.inr (by decide : 3 < datasetBuffer))
  have hnone : datasetBuffer * (3 / datasetBuffer) = 0 := by decide
  rw [hcalls, hout]
  show (_, datasetHead file ++ (rows.take (datasetBuffer * (3 / datasetBuffer))).map csvRow) = _
  rw [hnone, List.take_zero, List.map_nil, List.append_nil]

/-- The beginning of a batch. -/
theorem batchFrames_cons (math : MathModule R) (n : ℕ) :
    ∃ rest, batchFrames math (n + 1) = [EcuMessage.brake, .engineRpm, .vehicleSpeed,
      .transmission].map (batchFrame math 0) ++ rest := by
  refine ⟨[EcuMessage.engineTemp, .bodyDoors, .lighting, .bodyClimate].map (batchFrame math 0) ++
    (List.range n).flatMap fun step => stepFrames math (step + 1), ?_⟩
  rw [batchFrames, List.range_succ_eq_map, List.flatMap_cons, List.flatMap_map,
    ← List.append_assoc]
  rfl

/-- Of the frames of a batch, those of the transmission do not decode. -/
theorem decodes_batchFrame {math : MathModule R} (hsin : math.SinBounded) (step : ℕ)
    (kind : EcuMessage) : (batchFrame math step kind).Decodes ↔ kind ≠ .transmission := by
  constructor
  · rintro hdec rfl
    rw [batchFrame_eq hsin, CANFrame.Decodes, decodeSignals_sent_transmission] at hdec
    cases hdec
  · intro hkind
    rw [CANFrame.decodes_iff]
    exact not_layout (EcuMessage.canId_injective.ne hkind)

theorem batchTime_zero : (batchTime 0 : R) = baseTime := by
  rw [batchTime, stepTime, Nat.cast_zero, zero_mul, add_zero, baseTime]

/-- The attacks begin after the first step. -/
theorem baseTime_le_attack {draws : ℕ → FuzzDraw} {e : DatasetEvent R}
    (he : e ∈ attackEvents draws) : baseTime ≤ e.1 := by
  rw [attackEvents, List.mem_append, List.mem_append] at he
  rcases he with he | he | he
  all_goals
    refine le_trans ?_ (burst_time (by norm_num) he).1
    exact le_add_of_nonneg_right (by norm_num)

/-- The merged traffic begins with the frames of the first step. -/
theorem timeline_cons {kinds : List EcuMessage} (math : MathModule R) {rest : List (CANFrame R)}
    (hsorted : (kinds.map (batchFrame math 0) ++ rest).Pairwise fun f g =>
      f.timestamp ≤ g.timestamp) (draws : ℕ → FuzzDraw) :
    ∃ later, timeline (kinds.map (batchFrame math 0) ++ rest) draws =
      normalEvents (kinds.map (batchFrame math 0)) ++ later := by
  have hsplit : allEvents (kinds.map (batchFrame math 0) ++ rest) draws =
      normalEvents (kinds.map (batchFrame math 0)) ++ (normalEvents rest ++ attackEvents draws) := by
    rw [allEvents, normalEvents, List.map_append, List.append_assoc]
    rfl
  refine ⟨(normalEvents rest ++ attackEvents draws).mergeSort notLater, ?_⟩
  rw [timeline, hsplit]
  rw [List.pairwise_append] at hsorted
  refine mergeSort_append_of_le notLater_trans notLater_total ?_ ?_
  · rw [normalEvents, List.pairwise_map]
    simpa [notLater] using hsorted.1
  · intro a ha b hb
    obtain ⟨frame, hframe, rfl⟩ := List.mem_map.mp ha
    rw [notLater, decide_eq_true_eq]
    rcases List.mem_append.mp hb with hb | hb
    · obtain ⟨later, hlater, rfl⟩ := List.mem_map.mp hb
      exact hsorted.2.2 frame hframe later hlater
    · obtain ⟨kind, _, rfl⟩ := List.mem_map.mp hframe
      exact (batchTime_zero (R := R)).le.trans (baseTime_le_attack hb)

/-- A duration of 5 ms or more has a step. -/
theorem one_le_totalSteps {durationSec : R} : 1 ≤ totalSteps durationSec ↔ 0.005 ≤ durationSec := by
  have hstep : (0 : R) < 0.005 := by norm_num
  rw [totalSteps]
  constructor
  · intro h
    by_contra hlt
    have hquot : durationSec / 0.005 < ((1 : ℤ) : R) := by
      rw [Int.cast_one, div_lt_one hstep]
      exact not_le.mp hlt
    have hint := pyInt_lt Int.one_pos hquot
    omega
  · intro h
    have hquot : ((1 : ℤ) : R) ≤ durationSec / 0.005 := by
      rw [Int.cast_one, one_le_div hstep]
      exact h
    have hint := le_pyInt hquot
    omega

/-- The first four frames of a batch of 5 ms or more, the last of which is one of the
transmission. -/
theorem batch_head {math : MathModule R} (hsin : math.SinBounded) {durationSec : R}
    (hduration : 0.005 ≤ durationSec) :
    ∃ (n : ℕ) (rest : List (CANFrame R)),
      generateBatch math durationSec = .ok (batchFrames math (n + 1)) ∧
        batchFrames math (n + 1) = [EcuMessage.brake, .engineRpm, .vehicleSpeed,
          .transmission].map (batchFrame math 0) ++ rest := by
  obtain ⟨n, hn⟩ := Nat.exists_eq_add_of_le' (one_le_totalSteps.mpr hduration)
  obtain ⟨rest, hrest⟩ := batchFrames_cons math n
  refine ⟨n, rest, ?_, hrest⟩
  rw [generateBatch_ok hsin, hn]

theorem generateBaselineDataset_abort {math : MathModule R} (hsin : math.SinBounded)
    {durationSec : R} (hduration : 0.005 ≤ durationSec) (disk : ℕ → WriteOutcome)
    (file : CsvFile) :
    generateBaselineDataset math durationSec disk file =
      (.error (.structError "unpack requires a buffer of 5 bytes"), datasetHead file) := by
  obtain ⟨n, rest, hbatch, hrest⟩ := batch_head hsin hduration
  have hdec := decodes_batchFrame hsin 0
  rw [generateBaselineDataset, hbatch, hrest]
  exact recordDataset_abort disk _ file _ ((hdec .brake).mpr (by decide))
    ((hdec .engineRpm).mpr (by decide)) ((hdec .vehicleSpeed).mpr (by decide))
    fun h => (hdec .transmission).mp h rfl

theorem generateLabeledAttackDataset_abort {math : MathModule R} (hsin : math.SinBounded)
    {durationSec : R} (hduration : 0.005 ≤ durationSec) (draws : ℕ → FuzzDraw)
    (disk : ℕ → WriteOutcome) (file : CsvFile) :
    generateLabeledAttackDataset math durationSec draws disk file =
      (.error (.structError "unpack requires a buffer of 5 bytes"), datasetHead file) := by
  obtain ⟨n, rest, hbatch, hrest⟩ := batch_head hsin hduration
  have hsorted := pairwise_batchFrames math (n + 1)
  rw [hrest] at hsorted
  obtain ⟨later, hlater⟩ := timeline_cons math hsorted draws
  have hdec := decodes_batchFrame hsin 0
  rw [generateLabeledAttackDataset, hbatch, hrest]
  dsimp only
  rw [hlater]
  exact recordDataset_abort disk _ file _ ((hdec .brake).mpr (by decide))
    ((hdec .engineRpm).mpr (by decide)) ((hdec .vehicleSpeed).mpr (by decide))
    fun h => (hdec .transmission).mp h rfl

/-- **From 5 ms of traffic on, no data set is completed.** The fourth frame of every batch
is one of the transmission, which the parser of the logger cannot decode: both generators
raise there, and no row has reached the file. This holds whatever the disk does to the rows and
whatever the attacks are; opening the file and writing its header are taken to succeed. -/
theorem dataset_generators_abort {math : MathModule R} (hsin : math.SinBounded)
    {durationSec : R} (hduration : 0.005 ≤ durationSec) (draws : ℕ → FuzzDraw)
    (disk : ℕ → WriteOutcome) (file : CsvFile) :
    generateBaselineDataset math durationSec disk file =
        (.error (.structError "unpack requires a buffer of 5 bytes"), datasetHead file) ∧
      generateLabeledAttackDataset math durationSec draws disk file =
        (.error (.structError "unpack requires a buffer of 5 bytes"), datasetHead file) :=
  ⟨generateBaselineDataset_abort hsin hduration disk file,
    generateLabeledAttackDataset_abort hsin hduration draws disk file⟩

theorem dataset_generators_abort_real :
    generateBaselineDataset MathModule.real 30 (fun _ => .success) [] =
      (.error (.structError "unpack requires a buffer of 5 bytes"), datasetHead []) :=
  (dataset_generators_abort MathModule.real_sinBounded (by norm_num)
    (fun _ => ⟨1, [0], by decide, by decide⟩) (fun _ => .success) []).1

/-! ## The attack data set alone -/

/-- A draw that makes a transmission frame the logger cannot decode. -/
def FuzzDraw.Undecodable (draw : FuzzDraw) : Prop :=
  draw.randId = canIdTransmission ∧ 4 ≤ draw.data.length

/-- The payload of a fuzzing frame is its data. -/
theorem decodes_fuzz (draw : FuzzDraw) (t : R) :
    (CANFrame.new t draw.randId draw.data (some draw.data.length) false false false
      (some t)).Decodes ↔ ¬ draw.Undecodable := by
  have hdlc : min (draw.data.length : ℤ) 8 = draw.data.length :=
    min_eq_left (by exact_mod_cast draw.length_mem.2)
  have hpayload : (CANFrame.new t draw.randId draw.data (some draw.data.length) false false false
      (some t)).payload = draw.data := by
    rw [CANFrame.payload, CANFrame.new]
    dsimp only
    rw [hdlc, pySlice_of_nonneg _ (Int.natCast_nonneg _), Int.toNat_natCast, List.take_length]
  rw [CANFrame.decodes_iff, hpayload]
  rfl

/-- The attack frames before the fuzzing, and those of the fuzzing. -/
theorem decodes_attackEvents {draws : ℕ → FuzzDraw} {i : ℕ} {e : DatasetEvent R}
    (he : (attackEvents draws)[i]? = some e) :
    e.2.1.Decodes ↔ (i < 800 ∨ ¬ (draws (i - 800)).Undecodable) := by
  have hflood : (floodBurst : List (DatasetEvent R)).length = 600 := length_burst
  have hspoof : (spoofBurst : List (DatasetEvent R)).length = 200 := length_burst
  rw [attackEvents, List.getElem?_append, hflood] at he
  by_cases h600 : i < 600
  · rw [if_pos h600] at he
    obtain ⟨j, _, rfl⟩ := mem_burst.mp (List.mem_of_getElem? he)
    refine iff_of_true ?_ (.inl (by omega))
    rw [CANFrame.decodes_iff]
    exact not_layout (show (0x000 : ℤ) ≠ canIdTransmission by decide)
  · rw [if_neg h600, List.getElem?_append, hspoof] at he
    by_cases h200 : i - 600 < 200
    · rw [if_pos h200] at he
      obtain ⟨j, _, rfl⟩ := mem_burst.mp (List.mem_of_getElem? he)
      refine iff_of_true ?_ (.inl (by omega))
      rw [CANFrame.decodes_iff]
      exact not_layout (show canIdBrakeOverride ≠ canIdTransmission by decide)
    · rw [if_neg h200, fuzzBurst, burst, List.getElem?_map, Option.map_eq_some_iff] at he
      obtain ⟨j, hj, rfl⟩ := he
      obtain ⟨hlt, rfl⟩ := List.getElem?_eq_some_iff.mp hj
      have hindex : i - 600 - 200 = i - 800 := by omega
      have hlate : ¬ i < 800 := by omega
      rw [List.getElem_range, hindex, or_iff_right hlate]
      exact decodes_fuzz _ _

theorem length_attackEvents (draws : ℕ → FuzzDraw) :
    (attackEvents draws : List (DatasetEvent R)).length = 1100 := by
  rw [attackEvents, List.length_append, List.length_append, floodBurst, spoofBurst, fuzzBurst,
    length_burst, length_burst, length_burst]

/-- The calls on a disk that does not fail. -/
def healthyCalls (events : List (DatasetEvent R)) : List (LogCall R) :=
  events.map fun e => ⟨e.2.1, e.2.2, .success⟩

omit [PyFloat R] in
theorem datasetCalls_success (events : List (DatasetEvent R)) :
    datasetCalls (fun _ => .success) (events.map Prod.snd) = healthyCalls events := by
  have hcalls : ∀ xs : List (CANFrame R × String),
      datasetCalls (fun _ => .success) xs = xs.map fun e => ⟨e.1, e.2, .success⟩ := by
    intro xs
    conv_rhs => rw [← List.zipIdx_map_fst 0 xs, List.map_map]
    rfl
  rw [hcalls, List.map_map]
  rfl

omit [PyFloat R] in
theorem healthyCalls_io (events : List (DatasetEvent R)) :
    ∀ call ∈ healthyCalls events, call.io = .success := by
  intro call hcall
  obtain ⟨e, _, rfl⟩ := List.mem_map.mp hcall
  rfl

omit [PyFloat R] in
/-- The call of one event, between those before and after it. -/
theorem healthyCalls_split (events : List (DatasetEvent R)) {m : ℕ} (hm : m < events.length) :
    healthyCalls events = healthyCalls (events.take m) ++
      ⟨events[m].2.1, events[m].2.2, .success⟩ :: healthyCalls (events.drop (m + 1)) := by
  conv_lhs => rw [← List.take_append_drop m events, List.drop_eq_getElem_cons hm]
  rw [healthyCalls, List.map_append, List.map_cons]
  rfl

/-- Below 5 ms the attacks are the whole data set. -/
theorem generateLabeledAttackDataset_short {math : MathModule R} (hsin : math.SinBounded)
    {durationSec : R} (hduration : durationSec < 0.005) (draws : ℕ → FuzzDraw) (file : CsvFile) :
    generateLabeledAttackDataset math durationSec draws (fun _ => .success) file =
      recordDataset (healthyCalls (attackEvents draws : List (DatasetEvent R))) .success file := by
  have hzero : totalSteps durationSec = 0 := by
    have hnot : ¬ 1 ≤ totalSteps durationSec := one_le_totalSteps.not.mpr (not_le.mpr hduration)
    omega
  have htimeline : (timeline [] draws : List (DatasetEvent R)) = attackEvents draws := by
    rw [timeline, allEvents, normalEvents, List.map_nil, List.nil_append]
    exact List.mergeSort_of_pairwise (pairwise_attackEvents draws)
  rw [generateLabeledAttackDataset, generateBatch_ok hsin, hzero]
  show recordDataset (datasetCalls _ ((timeline [] draws).map Prod.snd)) _ file = _
  rw [htimeline, datasetCalls_success]

/-- If no draw is bad, all attacks are logged. -/
theorem attack_dataset_of_decodes {draws : ℕ → FuzzDraw} (file : CsvFile)
    (hdraws : ∀ i < 300, ¬ (draws i).Undecodable) :
    ∃ rows, List.Forall₂ (fun e row => IsRowOf e.2.1 e.2.2 row)
        (attackEvents draws : List (DatasetEvent R)) rows ∧
      recordDataset (healthyCalls (attackEvents draws : List (DatasetEvent R))) .success file =
        (.ok 1100, datasetHead file ++ rows.map csvRow) := by
  obtain ⟨rows, hrows, hout⟩ := recordDataset_of_decodes file
    (healthyCalls (attackEvents draws : List (DatasetEvent R))) (by
      intro call hcall
      obtain ⟨e, he, rfl⟩ := List.mem_map.mp hcall
      obtain ⟨i, hi, hget⟩ := List.mem_iff_getElem.mp he
      rw [length_attackEvents] at hi
      refine (decodes_attackEvents (List.getElem?_eq_some_iff.mpr ⟨_, hget⟩)).mpr ?_
      by_cases hlt : i < 800
      · exact .inl hlt
      · exact .inr (hdraws _ (by omega))) (healthyCalls_io _)
  rw [healthyCalls, List.forall₂_map_left_iff] at hrows
  refine ⟨rows, hrows, ?_⟩
  rw [hout, healthyCalls, List.length_map, length_attackEvents]

/-- At the first bad draw the generator raises. -/
theorem attack_dataset_of_undecodable {draws : ℕ → FuzzDraw} (file : CsvFile) {i : ℕ}
    (hi : i < 300) (hbad : (draws i).Undecodable) (hfirst : ∀ j < i, ¬ (draws j).Undecodable) :
    ∃ rows, List.Forall₂ (fun e row => IsRowOf e.2.1 e.2.2 row)
        ((attackEvents draws : List (DatasetEvent R)).take (800 + i)) rows ∧
      recordDataset (healthyCalls (attackEvents draws : List (DatasetEvent R))) .success file =
        (.error (.structError "unpack requires a buffer of 5 bytes"), datasetHead file ++
          (rows.take (if i < 200 then 500 else 1000)).map csvRow) := by
  have hlt : 800 + i < (attackEvents draws : List (DatasetEvent R)).length := by
    rw [length_attackEvents]
    omega
  have hlength : (healthyCalls ((attackEvents draws : List (DatasetEvent R)).take
      (800 + i))).length = 800 + i := by
    rw [healthyCalls, List.length_map, List.length_take, min_eq_left hlt.le]
  obtain ⟨rows, hrows, hout⟩ := recordDataset_of_raise file
    (healthyCalls ((attackEvents draws : List (DatasetEvent R)).take (800 + i)))
    ⟨(attackEvents draws)[800 + i].2.1, (attackEvents draws)[800 + i].2.2, .success⟩
    (healthyCalls ((attackEvents draws).drop (800 + i + 1))) .success (by
      intro call hcall
      obtain ⟨e, he, rfl⟩ := List.mem_map.mp hcall
      obtain ⟨j, hj, hget⟩ := List.mem_iff_getElem.mp he
      rw [List.length_take, lt_min_iff] at hj
      rw [List.getElem_take] at hget
      refine (decodes_attackEvents (List.getElem?_eq_some_iff.mpr ⟨hj.2, hget⟩)).mpr ?_
      by_cases hlate : j < 800
      · exact .inl hlate
      · exact .inr (hfirst _ (by omega))) (by
      rw [decodes_attackEvents (List.getElem?_eq_some_iff.mpr ⟨hlt, rfl⟩), Nat.add_sub_cancel_left]
      exact not_or.mpr ⟨by omega, not_not.mpr hbad⟩) (.inl (healthyCalls_io _))
  rw [healthyCalls, List.forall₂_map_left_iff] at hrows
  refine ⟨rows, hrows, ?_⟩
  have hfull : datasetBuffer * ((800 + i) / datasetBuffer) = if i < 200 then 500 else 1000 := by
    unfold datasetBuffer
    split <;> omega
  rw [hlength, hfull] at hout
  rw [healthyCalls_split _ hlt, hout]

/-- The first of some bad draws. -/
theorem exists_first {draws : ℕ → FuzzDraw} {n : ℕ}
    (h : ¬ ∀ i < n, ¬ (draws i).Undecodable) :
    ∃ i < n, (draws i).Undecodable ∧ ∀ j < i, ¬ (draws j).Undecodable := by
  classical
  push Not at h
  obtain ⟨i, hi, hbad⟩ := h
  have hex : ∃ i, (draws i).Undecodable := ⟨i, hbad⟩
  exact ⟨Nat.find hex, (Nat.find_min' hex hbad).trans_lt hi, Nat.find_spec hex,
    fun j hj => Nat.find_min hex hj⟩

/-- **When the attack data set is completed.** On a disk that does not fail, for every
duration and all draws: the generator returns exactly when it makes less than 5 ms of traffic
and none of the 300 fuzzing frames is one of the transmission with four bytes or more. Then it
returns 1100 and has added the rows of the attack frames, in order. If the fuzzing frame `i` is
the first bad one, it raises, and the rows of one or two full buffers have been added; from 5 ms of
traffic on it raises at the fourth frame, and none have. -/
theorem attack_dataset_outcome {math : MathModule R} (hsin : math.SinBounded) (durationSec : R)
    (draws : ℕ → FuzzDraw) (file : CsvFile) :
    let out := generateLabeledAttackDataset math durationSec draws (fun _ => .success) file
    (out.1.isOk ↔ durationSec < 0.005 ∧ ∀ i < 300, ¬ (draws i).Undecodable) ∧
      (out.1.isOk → ∃ rows, List.Forall₂ (fun e row => IsRowOf e.2.1 e.2.2 row)
          (attackEvents draws : List (DatasetEvent R)) rows ∧
        out = (.ok 1100, datasetHead file ++ rows.map csvRow)) ∧
      (durationSec < 0.005 → ∀ i < 300, (draws i).Undecodable →
        (∀ j < i, ¬ (draws j).Undecodable) →
        ∃ rows, List.Forall₂ (fun e row => IsRowOf e.2.1 e.2.2 row)
            ((attackEvents draws : List (DatasetEvent R)).take (800 + i)) rows ∧
          out = (.error (.structError "unpack requires a buffer of 5 bytes"), datasetHead file ++
            (rows.take (if i < 200 then 500 else 1000)).map csvRow)) ∧
      (0.005 ≤ durationSec →
        out = (.error (.structError "unpack requires a buffer of 5 bytes"), datasetHead file)) := by
  dsimp only
  by_cases hduration : durationSec < 0.005
  · rw [generateLabeledAttackDataset_short hsin hduration]
    refine ⟨?_, ?_, fun _ i hi hbad hfirst => attack_dataset_of_undecodable file hi hbad hfirst,
      fun h => absurd hduration (not_lt.mpr h)⟩
    all_goals by_cases hdraws : ∀ i < 300, ¬ (draws i).Undecodable
    · obtain ⟨rows, _, hout⟩ := attack_dataset_of_decodes (R := R) file hdraws
      rw [hout]
      exact iff_of_true rfl ⟨hduration, hdraws⟩
    · obtain ⟨i, hi, hbad, hfirst⟩ := exists_first hdraws
      obtain ⟨rows, _, hout⟩ := attack_dataset_of_undecodable (R := R) file hi hbad hfirst
      rw [hout]
      exact iff_of_false Bool.false_ne_true fun h => hdraws h.2
    · exact fun _ => attack_dataset_of_decodes file hdraws
    · obtain ⟨i, hi, hbad, hfirst⟩ := exists_first hdraws
      obtain ⟨rows, _, hout⟩ := attack_dataset_of_undecodable (R := R) file hi hbad hfirst
      rw [hout]
      exact fun h => absurd h Bool.false_ne_true
  · rw [generateLabeledAttackDataset_abort hsin (not_lt.mp hduration)]
    exact ⟨iff_of_false Bool.false_ne_true fun h => hduration h.1, fun h => absurd h Bool.false_ne_true,
      fun h => absurd h hduration, fun _ => rfl⟩

/-- Without normal traffic, with fuzzing frames of one byte. -/
theorem attack_dataset_outcome_short :
    (generateLabeledAttackDataset MathModule.real 0 (fun _ => ⟨1, [0], by decide, by decide⟩)
      (fun _ => .success) []).1.isOk :=
  (attack_dataset_outcome MathModule.real_sinBounded 0 (fun _ => ⟨1, [0], by decide, by decide⟩)
    []).1.mpr ⟨by norm_num, fun _ _ h => absurd h.1 (by decide)⟩

end CanSentinel
