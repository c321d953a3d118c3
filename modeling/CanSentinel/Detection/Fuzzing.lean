import CanSentinel.Detection.AlertEngine

/-!
# The fuzzing threshold

The alert engine takes a payload entropy above 2.75 bits for fuzzing. Over the
reals, and for the at most eight payload bytes of a CAN frame, this is a
condition on the bytes alone: `2.75` lies between `log₂ 6` and `log₂ 7`, and a
single repeated byte among eight brings the entropy down to exactly `2.75`.

- `entropy_exceeds_iff`: the threshold, for any byte string of at most 8 bytes.
- `fuzzing_verdict_iff`: what `evaluate_detection` makes of a result of
  `process_frame`.
-/

namespace CanSentinel

open StreamAnomalyDetector

/-! ## The threshold -/

theorem logb_two_six_le : Real.logb 2 6 ≤ 2.75 := by
  -- 6 ^ 4 = 1296 and 2 ^ 11 = 2048
  have hpow : Real.logb 2 ((6 : ℝ) ^ 4) ≤ Real.logb 2 ((2 : ℝ) ^ 11) :=
    Real.logb_le_logb_of_le (by norm_num) (by norm_num) (by norm_num)
  rw [Real.logb_pow, Real.logb_pow, Real.logb_self_eq_one (by norm_num)] at hpow
  norm_num at hpow ⊢
  linarith

theorem lt_logb_two_seven : 2.75 < Real.logb 2 7 := by
  -- 7 ^ 4 = 2401 and 2 ^ 11 = 2048
  have hpow : Real.logb 2 ((2 : ℝ) ^ 11) < Real.logb 2 ((7 : ℝ) ^ 4) :=
    Real.logb_lt_logb (by norm_num) (by norm_num) (by norm_num)
  rw [Real.logb_pow, Real.logb_pow, Real.logb_self_eq_one (by norm_num)] at hpow
  norm_num at hpow ⊢
  linarith

theorem logb_two_le_three {n : ℕ} (h0 : 0 < n) (h : n ≤ 8) : Real.logb 2 n ≤ 3 := by
  have hcast : (n : ℝ) ≤ 2 ^ 3 := by
    norm_num
    exact_mod_cast h
  have hle := Real.logb_le_logb_of_le (b := 2) (by norm_num) (by exact_mod_cast h0) hcast
  rwa [Real.logb_pow, Real.logb_self_eq_one (by norm_num), mul_one] at hle

/-- The threshold separates six different bytes from seven. -/
theorem lt_logb_two_iff {n : ℕ} (h0 : 0 < n) : 2.75 < Real.logb 2 n ↔ 7 ≤ n := by
  constructor
  · intro hlt
    by_contra hn
    have hcast : (n : ℝ) ≤ 6 := by
      have : n ≤ 6 := by omega
      exact_mod_cast this
    have hle := Real.logb_le_logb_of_le (b := 2) (by norm_num) (by exact_mod_cast h0) hcast
    exact absurd hlt (not_lt.mpr (hle.trans logb_two_six_le))
  · intro hn
    have hcast : (7 : ℝ) ≤ n := by exact_mod_cast hn
    exact lt_logb_two_seven.trans_le (Real.logb_le_logb_of_le (by norm_num) (by norm_num) hcast)

/-- **The threshold on payloads**: more than 2.75 bits, exactly when there are seven
or eight bytes and no two of them are equal. -/
theorem entropy_exceeds_iff {data : Bytes} (h : data.length ≤ 8) :
    2.75 < (shannonEntropy data : ℝ) ↔ 7 ≤ data.length ∧ data.Nodup := by
  by_cases hdata : data.Nodup
  · by_cases hempty : data = []
    · subst hempty
      have hzero : (shannonEntropy ([] : Bytes) : ℝ) = 0 := if_pos rfl
      rw [hzero]
      norm_num
    · rw [shannonEntropy_of_nodup hempty hdata, lt_logb_two_iff (List.length_pos_iff.mpr hempty)]
      exact (and_iff_left hdata).symm
  · refine iff_of_false ?_ fun hboth => hdata hboth.2
    have hpos : 0 < data.length := by
      refine List.length_pos_iff.mpr ?_
      rintro rfl
      exact hdata List.nodup_nil
    -- a repetition costs `2 / n`, at least the quarter bit between `log₂ 8` and 2.75
    have hquarter : (1 / 4 : ℝ) ≤ 2 / data.length := by
      have hcast : (data.length : ℝ) ≤ 8 := by exact_mod_cast h
      have hpos' : (0 : ℝ) < data.length := by exact_mod_cast hpos
      rw [div_le_div_iff₀ (by norm_num) hpos']
      linarith
    have hle := shannonEntropy_le_of_not_nodup hdata
    have hlog := logb_two_le_three hpos h
    norm_num
    linarith

/-! ## The verdict -/

/-- A fuzzing verdict needs an entropy above the threshold, and that no flood was
found first. -/
theorem classify_payloadFuzzing_iff {R : Type} [PyFloat R] (canId : ℤ)
    (deltaTMs entropy anomalyScore : R) :
    (classify canId deltaTMs entropy anomalyScore).attackType = .payloadFuzzingAttack ↔
      ¬ (canId = 0 ∨ deltaTMs < 0.8) ∧ 2.75 < entropy := by
  rw [classify]
  by_cases hflood : canId = 0 ∨ deltaTMs < 0.8
  · rw [if_pos hflood]
    exact iff_of_false AttackType.noConfusion fun h => h.1 hflood
  · rw [if_neg hflood]
    by_cases hfuzz : 2.75 < entropy
    · rw [if_pos hfuzz]
      exact iff_of_true rfl ⟨hflood, hfuzz⟩
    · rw [if_neg hfuzz]
      refine iff_of_false ?_ fun h => hfuzz h.2
      repeat' split
      all_goals exact AttackType.noConfusion

/-- A frame whose DLC is the length of its data carries all of it. -/
theorem CANFrame.payload_of_dlc {R : Type} {frame : CANFrame R}
    (h : (frame.data.length : ℤ) = frame.dlc) : frame.payload = frame.data := by
  have hpos : 0 ≤ frame.dlc := h ▸ Int.natCast_nonneg _
  have hlen : frame.dlc.toNat = frame.data.length := by omega
  rw [CANFrame.payload, pySlice_of_nonneg _ hpos, hlen, List.take_length]

variable {U V : Type}

/-- **What a fuzzing verdict means.** -/
theorem fuzzing_verdict_iff (predictSingle : PredictSingle ℝ)
    (callbacks : List (Callback PyError V (DetectionResult ℝ)))
    (s : StreamAnomalyDetector ℝ × Subscribers V (DetectionResult ℝ)) (env : AlertEnv ℝ)
    (alertCallbacks : List (Callback PyError U (SecurityAlert ℝ))) (alerts : AlertSystem ℝ U)
    (frame : CANFrame ℝ) (result : DetectionResult ℝ) (alert : SecurityAlert ℝ)
    (hlen : (frame.data.length : ℤ) = frame.dlc) (hdlc : frame.dlc ≤ 8) (hid : frame.canId ≠ 0)
    (hresult : (processFrame predictSingle callbacks s frame).1 = .ok result)
    (hdelta : 0.0008 ≤ result.parsed.deltaT)
    (halert : (alerts.evaluateDetection env alertCallbacks result).1 = .ok (some alert)) :
    alert.attackType = .payloadFuzzingAttack ↔
      (frame.data.length = 7 ∨ frame.data.length = 8) ∧ frame.data.Nodup := by
  obtain ⟨_, iso, _, rfl⟩ :=
    (alerts.evaluateDetection_eq_some_iff env alertCallbacks result alert).mp halert
  rw [processFrame_eq] at hresult
  obtain ⟨_, signals, pred, score, _, _, hresultOf⟩ :=
    (s.1.scoreCall_eq_ok_iff (predictSingle, frame) result).mp hresult
  obtain rfl : result = s.1.resultOf frame signals pred score := hresultOf
  have hlen8 : frame.data.length ≤ 8 := by omega
  have hslow : ¬ ((s.1.resultOf frame signals pred score).frame.canId = 0 ∨
      (s.1.resultOf frame signals pred score).parsed.deltaT * 1000.0 < 0.8) := by
    rintro (hzero | hfast)
    · exact hid hzero
    · norm_num at hdelta hfast
      linarith
  have hentropy : (s.1.resultOf frame signals pred score).parsed.entropy =
      shannonEntropy frame.data := by
    show shannonEntropy frame.payload = _
    rw [CANFrame.payload_of_dlc hlen]
  refine (classify_payloadFuzzing_iff _ _ _ _).trans ?_
  rw [and_iff_right hslow, hentropy, entropy_exceeds_iff hlen8]
  refine and_congr_left' ?_
  omega

/-- A door frame of eight different bytes at time `t`. -/
def distinctDoors (t : ℝ) : CANFrame ℝ :=
  CANFrame.new t canIdBodyDoors [0x9C, 0x11, 0x4E, 0xD3, 0x07, 0xB8, 0x62, 0xFA] (some 8) false
    false false (some t)

/-- A detector that has seen a door frame at time 0 flags one at time 1. -/
theorem fuzzing_verdict_iff_doors :
    let s : StreamAnomalyDetector ℝ × Subscribers Unit (DetectionResult ℝ) :=
      ((StreamAnomalyDetector.new 50 20).advanced (distinctDoors 0), ⟨(), []⟩)
    ∃ result, (processFrame (fun _ => .ok (-1, 7 / 10)) [] s (distinctDoors 1)).1 = .ok result ∧
      ((AlertSystem.alertOf 1 "1970-01-01T00:00:00Z" result).attackType = .payloadFuzzingAttack ↔
        ((distinctDoors 1).data.length = 7 ∨ (distinctDoors 1).data.length = 8) ∧
          (distinctDoors 1).data.Nodup) := by
  intro s
  obtain ⟨signals, hsignals⟩ := isOk_iff.mp
    ((decodeSignals_isOk_iff (R := ℝ) canIdBodyDoors (distinctDoors 1).payload).mpr
      fun h => absurd h.1 (by decide))
  have hresult : (processFrame (fun _ => .ok (-1, 7 / 10)) [] s (distinctDoors 1)).1 =
      .ok (s.1.resultOf (distinctDoors 1) signals (-1) (7 / 10)) := by
    rw [processFrame_eq]
    exact (s.1.scoreCall_eq_ok_iff (fun _ => .ok (-1, 7 / 10), distinctDoors 1) _).mpr
      ⟨by decide, signals, -1, 7 / 10, hsignals, rfl, rfl⟩
  have hdelta : (0.0008 : ℝ) ≤
      (s.1.resultOf (distinctDoors 1) signals (-1) (7 / 10)).parsed.deltaT := by
    show _ ≤ elapsed (((∅ : Dict ℤ ℝ).insert canIdBodyDoors 0).lookup canIdBodyDoors) 1
    rw [Finmap.lookup_insert, elapsed_of_le zero_le_one]
    norm_num
  refine ⟨_, hresult, ?_⟩
  exact fuzzing_verdict_iff _ [] s (.healthy ℝ) [] (AlertSystem.new 100 [] ()) (distinctDoors 1)
    _ _ rfl le_rfl (by decide) hresult hdelta rfl

end CanSentinel
