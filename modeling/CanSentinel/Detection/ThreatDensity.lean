import CanSentinel.Detection.StreamDetector

/-!
# The counters and the threat density

`process_frame` counts frames and anomalies over the detector's life, and reports
the share of anomalies among the last `threat_window_size` frames.

- `flags`: the model's labels along a run, `true` for `-1`.
- `Tally`: counters and window hold what the labels so far say.
- `threatDensity_of_ok`: the reported density is the share of anomalies in the
  window after the call.
- `counters_and_density_exact`: over every run whose calls return.
-/

namespace CanSentinel.StreamAnomalyDetector

variable {R : Type} [PyFloat R]

/-! ## Labels -/

/-- The model labels the frame of a call `-1`. -/
def flagOf (d : StreamAnomalyDetector R) (call : DetectorCall R) : Bool :=
  match call.1 (d.features call.2) with
  | .ok (pred, _) => decide (pred = -1)
  | .error _ => false

/-- The labels of a run. -/
def flags (d : StreamAnomalyDetector R) (calls : List (DetectorCall R)) : List Bool :=
  Machine.outputs (fun d call => (d.flagOf call, (d.scoreCall call).2)) d calls

theorem flags_concat (d : StreamAnomalyDetector R) (calls : List (DetectorCall R))
    (call : DetectorCall R) :
    flags d (calls ++ [call]) =
      flags d calls ++ [flagOf (Machine.final scoreCall d calls) call] := by
  have hfinal : Machine.final (fun d call => (d.flagOf call, (d.scoreCall call).2)) d calls =
      Machine.final scoreCall d calls :=
    Machine.final_map (f := fun d call => (flagOf d call, (d.scoreCall call).2))
      (g := scoreCall) (p := id) (fun _ _ => rfl) d calls
  rw [flags, Machine.outputs_concat, hfinal]
  rfl

theorem length_flags (d : StreamAnomalyDetector R) (calls : List (DetectorCall R)) :
    (flags d calls).length = calls.length := by
  induction calls using List.reverseRecOn with
  | nil => rfl
  | append_singleton calls call ih =>
    rw [flags_concat, List.length_append, List.length_append, ih]
    rfl

/-- A returning call reports the model's label. -/
theorem isAnomaly_of_ok {d : StreamAnomalyDetector R} {call : DetectorCall R}
    {result : DetectionResult R} (h : (d.scoreCall call).1 = .ok result) :
    result.isAnomaly = d.flagOf call := by
  obtain ⟨_, signals, pred, score, _, hpred, rfl⟩ := (d.scoreCall_eq_ok_iff call result).mp h
  rw [flagOf, hpred]
  rfl

/-! ## The window and the counters -/

/-- Counters and window hold the labels `fs`. -/
structure Tally (fs : List Bool) (d : StreamAnomalyDetector R) : Prop where
  processed : d.totalProcessed = fs.length
  flagged : d.totalAnomaliesFlagged = fs.count true
  window : d.threatWindow.Holds (fs.map Bool.toNat)

omit [PyFloat R] in
theorem tally_new (slidingWindowSize threatWindowSize : ℕ) :
    Tally [] (new slidingWindowSize threatWindowSize : StreamAnomalyDetector R) :=
  ⟨rfl, rfl, Deque.holds_empty _⟩

omit [PyFloat R] in
/-- The step: a returning call adds its label everywhere. -/
theorem Tally.step {fs : List Bool} {d : StreamAnomalyDetector R} (h : d.Tally fs)
    (frame : CANFrame R) (flag : Bool) : (d.processed frame flag).Tally (fs ++ [flag]) where
  processed := by
    show d.totalProcessed + 1 = _
    rw [h.processed, List.length_append]
    rfl
  flagged := by
    show d.totalAnomaliesFlagged + flag.toNat = _
    rw [h.flagged, List.count_append]
    cases flag with
    | false => rfl
    | true => rfl
  window := by
    rw [List.map_append]
    exact h.window.append flag.toNat

/-- Along a run whose calls return. -/
theorem tally_final (slidingWindowSize threatWindowSize : ℕ) (calls : List (DetectorCall R))
    (hok : ∀ r ∈ Machine.outputs scoreCall (new slidingWindowSize threatWindowSize) calls,
      r.isOk) :
    (Machine.final scoreCall (new slidingWindowSize threatWindowSize) calls).Tally
      (flags (new slidingWindowSize threatWindowSize) calls) := by
  induction calls using List.reverseRecOn with
  | nil => exact tally_new _ _
  | append_singleton calls call ih =>
    rw [Machine.outputs_concat, List.forall_mem_append, List.forall_mem_singleton] at hok
    obtain ⟨result, hres⟩ := isOk_iff.mp hok.2
    rw [Machine.final_concat, flags_concat, scoreCall_of_ok hres, isAnomaly_of_ok hres]
    exact (ih hok.1).step _ _

/-! ## The density -/

theorem sum_map_toNat (fs : List Bool) : (fs.map Bool.toNat).sum = fs.count true := by
  induction fs with
  | nil => rfl
  | cons b fs ih =>
    rw [List.map_cons, List.sum_cons, ih, List.count_cons, Nat.add_comm]
    cases b with
    | false => rfl
    | true => rfl

/-- The density a returning call reports is the share of ones in the window it
leaves. -/
theorem threatDensity_of_ok {d : StreamAnomalyDetector R} {call : DetectorCall R}
    {result : DetectionResult R} (h : (d.scoreCall call).1 = .ok result) :
    result.threatDensity = ((d.scoreCall call).2.threatWindow.items.sum : R) /
      ((d.scoreCall call).2.threatWindow.items.length : R) * 100 := by
  have hstate := scoreCall_of_ok h
  obtain ⟨_, signals, pred, score, _, _, rfl⟩ := (d.scoreCall_eq_ok_iff call result).mp h
  have hundred : (100.0 : R) = 100 := by norm_num
  rw [hstate, ← hundred]
  rfl

/-- The percentage of a part is between 0 and 100, and 100 for the whole only. -/
theorem percentage_bounds {k n : ℕ} (hn : 0 < n) (hk : k ≤ n) :
    (0 : R) ≤ 100 * k / n ∧ (100 * k / n : R) ≤ 100 ∧ ((100 * k / n : R) = 100 ↔ k = n) := by
  have hpos : (0 : R) < n := Nat.cast_pos.mpr hn
  have hle : (k : R) ≤ n := Nat.cast_le.mpr hk
  refine ⟨by positivity, ?_, ?_⟩
  · rw [div_le_iff₀ hpos]
    linarith
  · rw [div_eq_iff hpos.ne', mul_right_inj' (by norm_num), Nat.cast_inj]

/-- The density a returning call reports, when the labels up to its own are `fs`. -/
theorem Tally.threatDensity {fs : List Bool} {d : StreamAnomalyDetector R}
    {call : DetectorCall R} {result : DetectionResult R} (h : (d.scoreCall call).2.Tally fs)
    (hres : (d.scoreCall call).1 = .ok result) {threatWindowSize : ℕ}
    (hmaxlen : (d.scoreCall call).2.threatWindow.maxlen = threatWindowSize)
    (hpos : 0 < min fs.length threatWindowSize) :
    let recent := fs.rtake threatWindowSize
    result.threatDensity =
        100 * (recent.count true : R) / (min fs.length threatWindowSize : ℕ) ∧
      0 ≤ result.threatDensity ∧ result.threatDensity ≤ 100 ∧
      (result.threatDensity = 100 ↔ ∀ flag ∈ recent, flag = true) := by
  dsimp only
  have hlen := h.window.length_items
  have hitems := h.window
  rw [Deque.Holds, hmaxlen, Deque.rtake_map] at hitems
  rw [hmaxlen, List.length_map] at hlen
  have hrecent : (fs.rtake threatWindowSize).length = min fs.length threatWindowSize :=
    Deque.length_rtake _ _
  have hdensity : result.threatDensity =
      100 * ((fs.rtake threatWindowSize).count true : R) /
        (min fs.length threatWindowSize : ℕ) := by
    rw [threatDensity_of_ok hres, hlen, hitems, sum_map_toNat]
    ring
  have hcount : (fs.rtake threatWindowSize).count true ≤ min fs.length threatWindowSize := by
    rw [← hrecent]
    exact List.count_le_length
  obtain ⟨hzero, hhundred, hall⟩ := percentage_bounds (R := R) hpos hcount
  refine ⟨hdensity, hdensity ▸ hzero, hdensity ▸ hhundred, ?_⟩
  rw [hdensity, hall, ← hrecent, List.count_eq_length]
  simp only [eq_comm]

/-- The threat window keeps its bound. -/
theorem maxlen_final (slidingWindowSize threatWindowSize : ℕ) (calls : List (DetectorCall R)) :
    (Machine.final scoreCall (new slidingWindowSize threatWindowSize)
      calls).threatWindow.maxlen = threatWindowSize := by
  have hreach : Reachable slidingWindowSize threatWindowSize (Machine.final scoreCall
    (new slidingWindowSize threatWindowSize : StreamAnomalyDetector R) calls) := ⟨calls, rfl⟩
  exact hreach.maxlen

/-- The density of the last call of a run whose calls return. -/
theorem threatDensity_last (slidingWindowSize : ℕ) {threatWindowSize : ℕ}
    (hwindow : 1 ≤ threatWindowSize) {pre : List (DetectorCall R)} {call : DetectorCall R}
    (hok : ∀ r ∈ Machine.outputs scoreCall (new slidingWindowSize threatWindowSize)
      (pre ++ [call]), r.isOk) {result : DetectionResult R}
    (hres : ((Machine.final scoreCall (new slidingWindowSize threatWindowSize) pre).scoreCall
      call).1 = .ok result) :
    let recent := (flags (new slidingWindowSize threatWindowSize)
      (pre ++ [call])).rtake threatWindowSize
    result.threatDensity =
        100 * (recent.count true : R) / (min (pre.length + 1) threatWindowSize : ℕ) ∧
      0 ≤ result.threatDensity ∧ result.threatDensity ≤ 100 ∧
      (result.threatDensity = 100 ↔ ∀ flag ∈ recent, flag = true) := by
  have htally := tally_final slidingWindowSize threatWindowSize (pre ++ [call]) hok
  have hmax := maxlen_final slidingWindowSize threatWindowSize (pre ++ [call])
  rw [Machine.final_concat] at htally hmax
  have hlen : (flags (new slidingWindowSize threatWindowSize) (pre ++ [call])).length =
      pre.length + 1 := by rw [length_flags, List.length_append, List.length_singleton]
  rw [← hlen]
  refine htally.threatDensity hres hmax ?_
  rw [hlen]
  omega

section Run

variable {W : Type} (callbacks : List (Callback PyError W (DetectionResult R)))

/-- In a run whose calls return, every callback is told every result. -/
theorem heard_processCall {s : StreamAnomalyDetector R × Subscribers W (DetectionResult R)}
    {calls : List (DetectorCall R)}
    (hok : ∀ r ∈ Machine.outputs (processCall callbacks) s calls, r.isOk)
    {i : ℕ} (hi : i < callbacks.length) :
    ((Machine.final (processCall callbacks) s calls).2.heard i).map Except.ok =
      (s.2.heard i).map Except.ok ++ Machine.outputs (processCall callbacks) s calls := by
  induction calls using List.reverseRecOn with
  | nil => exact (List.append_nil _).symm
  | append_singleton calls call ih =>
    rw [Machine.outputs_concat, List.forall_mem_append, List.forall_mem_singleton] at hok
    obtain ⟨result, hres⟩ := isOk_iff.mp hok.2
    rw [Machine.outputs_concat, Machine.final_concat, ← List.append_assoc, ← ih hok.1, hres]
    rw [processCall_fst] at hres
    rw [processCall_of_ok callbacks hres, Subscribers.heard_notify callbacks result _ hi,
      List.map_append]
    rfl

/-- **Counters and density are exact.** In every run of a fresh detector whose calls
all return, whatever the callbacks do: the counters are the numbers of frames and of
frames labelled `-1`; the window holds the labels of the last frames; every result's
density is the percentage of anomalies among the last frames up to its own; and every
callback is told every result once, in order. -/
theorem counters_and_density_exact (slidingWindowSize : ℕ) {threatWindowSize : ℕ}
    (hwindow : 1 ≤ threatWindowSize) (world : W) (calls : List (DetectorCall R))
    (hok : ∀ r ∈ Machine.outputs (processCall callbacks)
      (new slidingWindowSize threatWindowSize, ⟨world, []⟩) calls, r.isOk) :
    let step := processCall callbacks
    let d₀ : StreamAnomalyDetector R := new slidingWindowSize threatWindowSize
    let s := Machine.final step (d₀, ⟨world, []⟩) calls
    s.1.totalProcessed = calls.length ∧
      s.1.totalAnomaliesFlagged = (flags d₀ calls).count true ∧
      s.1.threatWindow.items = ((flags d₀ calls).rtake threatWindowSize).map Bool.toNat ∧
      s.1.threatWindow.items.length = min calls.length threatWindowSize ∧
      (∀ pre call post result, calls = pre ++ call :: post →
        (step (Machine.final step (d₀, ⟨world, []⟩) pre) call).1 = .ok result →
        let recent := (flags d₀ (pre ++ [call])).rtake threatWindowSize
        result.threatDensity =
            100 * (recent.count true : R) / (min (pre.length + 1) threatWindowSize : ℕ) ∧
          0 ≤ result.threatDensity ∧ result.threatDensity ≤ 100 ∧
          (result.threatDensity = 100 ↔ ∀ flag ∈ recent, flag = true)) ∧
      ∀ i < callbacks.length,
        (s.2.heard i).map Except.ok = Machine.outputs step (d₀, ⟨world, []⟩) calls := by
  dsimp only
  have hok' := hok
  rw [outputs_processCall] at hok'
  have htally := tally_final slidingWindowSize threatWindowSize calls hok'
  have hmax := maxlen_final slidingWindowSize threatWindowSize calls
  rw [final_processCall]
  refine ⟨?_, htally.flagged, ?_, ?_, ?_, ?_⟩
  · rw [htally.processed, length_flags]
  · rw [htally.window, hmax, Deque.rtake_map]
  · rw [htally.window.length_items, hmax, List.length_map, length_flags]
  · intro pre call post result hcalls hres
    rw [processCall_fst, final_processCall] at hres
    refine threatDensity_last slidingWindowSize hwindow ?_ hres
    -- the run up to this call is a run whose calls return
    intro r hr
    refine hok' r ?_
    rw [hcalls, List.append_cons, Machine.outputs_append]
    exact List.mem_append_left _ hr
  · intro i hi
    rw [heard_processCall callbacks hok hi]
    rfl

end Run

/-- A lighting frame at time `t` with the given label. -/
def labelledCall (label : ℤ) (t : ℚ) : DetectorCall ℚ :=
  (fun _ => .ok (label, 0),
    CANFrame.new 0 canIdLighting [1, 2] none false false false (some t))

/-- One flagged frame and one normal one, with a callback that raises. -/
theorem counters_and_density_exact_half :
    let calls := [labelledCall (-1) 1, labelledCall 1 2]
    let s := Machine.final
      (processCall [fun _ world => (.error (.keyError "chart"), world)])
      ((new 50 20 : StreamAnomalyDetector ℚ), (⟨(), []⟩ : Subscribers Unit _)) calls
    s.1.totalAnomaliesFlagged = (flags (new 50 20) calls).count true :=
  (counters_and_density_exact [fun _ world => (.error (.keyError "chart"), world)] 50
    (by decide : 1 ≤ 20) () [labelledCall (-1) 1, labelledCall 1 2] (by decide +kernel)).2.1

end CanSentinel.StreamAnomalyDetector
