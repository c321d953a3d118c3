import CanSentinel.Lib.Hamming
import CanSentinel.Lib.Machine
import CanSentinel.Ml.Features

/-!
# The features of a history

What the incremental extractor computes, stated without its state: `featuresOf`
is the feature vector of a call as a function of the calls since the last reset.

- `CallsSeen e H`: the extractor's four pieces of state hold exactly what the
  calls `H` left; `CallsSeen.advance` is its step lemma.
- `CallsSeen.extractFeatures`: from such a state a call returns `featuresOf`.
- `extractor_computes_history`: over every sequence of calls and resets the
  extractor returns `featuresOf` of the calls since the last reset.
-/

namespace CanSentinel

variable {R : Type} [PyFloat R]

/-! ## Features as functions of the history -/

/-- The latest call with an id. -/
def latest (H : List (ExtractCall R)) (canId : ℤ) : Option (ExtractCall R) :=
  (H.filter fun c => c.canId = canId).getLast?

/-- The last `min(|H|, windowSize)` calls of `H`. -/
def recentCalls (windowSize : ℕ) (H : List (ExtractCall R)) : List (ExtractCall R) :=
  H.drop (H.length - min H.length windowSize)

/-- **The feature vector of a call after the calls `H`.** -/
def featuresOf (windowSize : ℕ) (H : List (ExtractCall R)) (call : ExtractCall R) :
    FeatureVector R :=
  let idFreq := (recentCalls windowSize (H ++ [call])).countP fun c => c.canId = call.canId
  { canId := call.canId
    dlc := call.dlc
    deltaT := match latest H call.canId with
      | some c => max 0 (call.timestamp - c.timestamp)
      | none => 0
    globalDeltaT := match H.getLast? with
      | some c => max 0 (call.timestamp - c.timestamp)
      | none => 0
    entropy := shannonEntropy call.payload
    byteMean := some (if call.payload = [] then 0 else mean (byteNumbers call.payload))
    byteVariance := some (if call.payload = [] then 0 else variance (byteNumbers call.payload))
    idFreqWindow := idFreq
    idRatioWindow :=
      if windowSize = 0 then 0 else (idFreq : R) / (min (H.length + 1) windowSize : ℕ)
    payloadChangeRate := match latest H call.canId with
      | some c => listDistance call.payload c.payload
      | none => 0 }

/-! ## The static features -/

omit [PyFloat R] in
/-- Under a non-negative DLC the payload is empty exactly when the source's guard
says so. -/
theorem payload_eq_nil_iff {call : ExtractCall R} (h : 0 ≤ call.dlc) :
    call.payload = [] ↔ call.data = [] ∨ call.dlc = 0 := by
  have hzero : call.dlc.toNat = 0 ↔ call.dlc = 0 := by omega
  rw [ExtractCall.payload, pySlice_of_nonneg _ h, List.take_eq_nil_iff, hzero, or_comm]

theorem calculateByteStats_eq {call : ExtractCall R} (h : 0 ≤ call.dlc) :
    (FeatureExtractor.calculateByteStats call.data call.dlc : Option R × Option R) =
      (some (if call.payload = [] then 0 else mean (byteNumbers call.payload)),
        some (if call.payload = [] then 0 else variance (byteNumbers call.payload))) := by
  rw [FeatureExtractor.calculateByteStats]
  by_cases hnil : call.data = [] ∨ call.dlc = 0
  · rw [if_pos hnil, if_pos ((payload_eq_nil_iff h).mpr hnil),
      if_pos ((payload_eq_nil_iff h).mpr hnil)]
  · have hne : call.payload ≠ [] := (payload_eq_nil_iff h).not.mpr hnil
    have hbytes : (byteNumbers call.payload : List R) ≠ [] := by simpa [byteNumbers] using hne
    rw [if_neg hnil, if_neg hne, if_neg hne]
    exact Prod.ext (if_neg hbytes) (if_neg hbytes)

theorem countP_differing (xs ys : Bytes) :
    (List.range (min xs.length ys.length)).countP (fun i => xs[i]? ≠ ys[i]?) =
      (xs.zip ys).countP fun p => p.1 ≠ p.2 := by
  induction xs generalizing ys with
  | nil => simp
  | cons x xs ih =>
    cases ys with
    | nil => simp
    | cons y ys =>
      have := ih ys
      rw [List.length_cons, List.length_cons, Nat.add_min_add_right, List.range_succ_eq_map,
        List.countP_cons, List.countP_map, List.zip_cons_cons, List.countP_cons, ← ih]
      simp [Function.comp_def]

theorem calculatePayloadChangeRate_some (curr prev : Bytes) :
    (FeatureExtractor.calculatePayloadChangeRate curr (some prev) : R) =
      listDistance curr prev := by
  have hdiff : ((curr.length : ℤ) - prev.length).natAbs =
      max curr.length prev.length - min curr.length prev.length := by omega
  rw [FeatureExtractor.calculatePayloadChangeRate, countP_differing, hdiff, listDistance]

/-! ## The state and the history -/

omit [PyFloat R] in
/-- The last write of a map keyed by id belongs to the latest call with the id. -/
theorem lastOf_map_calls {V : Type} (H : List (ExtractCall R)) (canId : ℤ)
    (f : ExtractCall R → V) :
    lastOf (H.map fun c => (c.canId, f c)) canId = (latest H canId).map f := by
  simp [lastOf, latest, List.filter_map, Function.comp_def]

namespace StreamingFeatureExtractor

/-- The state of the extractor is what the calls `H` left. -/
structure CallsSeen (e : StreamingFeatureExtractor R) (H : List (ExtractCall R)) : Prop where
  window : e.window.Holds (H.map ExtractCall.canId)
  timestamps : Tracks e.lastTimestampPerId (H.map fun c => (c.canId, c.timestamp))
  payloads : Tracks e.lastPayloadPerId (H.map fun c => (c.canId, c.payload))
  global : e.lastGlobalTimestamp = H.getLast?.map ExtractCall.timestamp

omit [PyFloat R] in
theorem callsSeen_new (windowSize : ℕ) :
    CallsSeen (new windowSize : StreamingFeatureExtractor R) [] :=
  ⟨Deque.holds_empty _, tracks_empty, tracks_empty, rfl⟩

omit [PyFloat R] in
theorem callsSeen_reset (e : StreamingFeatureExtractor R) : e.reset.CallsSeen [] :=
  ⟨Deque.holds_clear _, tracks_empty, tracks_empty, rfl⟩

omit [PyFloat R] in
/-- One call extends the history of all four. -/
theorem CallsSeen.advance {e : StreamingFeatureExtractor R} {H : List (ExtractCall R)}
    (h : e.CallsSeen H) (call : ExtractCall R) : (e.advance call).CallsSeen (H ++ [call]) where
  window := by
    rw [List.map_append]
    exact h.window.append call.canId
  timestamps := by
    rw [List.map_append]
    exact h.timestamps.insert call.canId call.timestamp
  payloads := by
    rw [List.map_append]
    exact h.payloads.insert call.canId call.payload
  global := by simp [StreamingFeatureExtractor.advance]

omit [PyFloat R] in
/-- The window after a call holds the ids of the recent calls. -/
theorem CallsSeen.window_append {e : StreamingFeatureExtractor R} {H : List (ExtractCall R)}
    (h : e.CallsSeen H) (call : ExtractCall R) :
    (e.window.append call.canId).items =
      (recentCalls e.window.maxlen (H ++ [call])).map ExtractCall.canId := by
  have hlast : (e.window.append call.canId).items =
      ((H ++ [call]).map ExtractCall.canId).rtake e.window.maxlen := (h.advance call).window
  rw [hlast, List.rtake, recentCalls, List.map_drop, List.length_map]
  congr 1
  omega

/-- **A call returns the features of its history.** -/
theorem CallsSeen.extractFeatures {e : StreamingFeatureExtractor R} {H : List (ExtractCall R)}
    (h : e.CallsSeen H) {call : ExtractCall R} (hdlc : 0 ≤ call.dlc) :
    (e.extractFeatures call).1 = featuresOf e.window.maxlen H call := by
  have hts : e.lastTimestampPerId.lookup call.canId =
      (latest H call.canId).map ExtractCall.timestamp :=
    (h.timestamps call.canId).trans (lastOf_map_calls H call.canId _)
  have hpay : e.lastPayloadPerId.lookup call.canId =
      (latest H call.canId).map ExtractCall.payload :=
    (h.payloads call.canId).trans (lastOf_map_calls H call.canId _)
  have hlen : (e.window.append call.canId).items.length =
      min (H.length + 1) e.window.maxlen := by
    have := (h.advance call).window.length_items
    rwa [List.length_map, List.length_append] at this
  have hfreq : (e.window.append call.canId).items.count call.canId =
      (recentCalls e.window.maxlen (H ++ [call])).countP fun c => c.canId = call.canId := by
    rw [h.window_append, List.count, List.countP_map]
    rfl
  unfold StreamingFeatureExtractor.extractFeatures featuresOf
  dsimp only
  rw [hts, hpay, h.global, calculateByteStats_eq hdlc, hfreq, hlen]
  congr 1
  · cases latest H call.canId <;> rfl
  · cases H.getLast? <;> rfl
  · rcases Nat.eq_zero_or_pos e.window.maxlen with hw | hw
    · rw [if_pos hw, if_neg (by omega)]
    · rw [if_neg hw.ne', if_pos (by omega)]
  · cases latest H call.canId with
    | none => rfl
    | some c => exact calculatePayloadChangeRate_some _ _

/-! ## Runs -/

/-- A method call on the extractor. -/
inductive Op (R : Type) where
  | extract (call : ExtractCall R)
  | reset

/-- One method call: the vector it returns, if any, and the state it leaves. -/
def step (e : StreamingFeatureExtractor R) :
    Op R → Option (FeatureVector R) × StreamingFeatureExtractor R
  | .extract call => ((e.extractFeatures call).map some id)
  | .reset => (none, e.reset)

/-- The `extract_features` calls since the last `reset`. -/
def callsSinceReset (ops : List (Op R)) : List (ExtractCall R) :=
  ops.foldl (fun H op => match op with
    | .extract call => H ++ [call]
    | .reset => []) []

/-- The answer to a method call as a function of the method calls before it. -/
def answer (windowSize : ℕ) (ops : List (Op R)) : Op R → Option (FeatureVector R)
  | .extract call => some (featuresOf windowSize (callsSinceReset ops) call)
  | .reset => none

omit [PyFloat R] in
theorem callsSinceReset_concat (ops : List (Op R)) (op : Op R) :
    callsSinceReset (ops ++ [op]) = match op with
      | .extract call => callsSinceReset ops ++ [call]
      | .reset => [] := by
  rw [callsSinceReset, List.foldl_append]
  rfl

/-- The step: the state keeps holding what the calls since the last reset left. -/
theorem CallsSeen.step {windowSize : ℕ} (ops : List (Op R)) (e : StreamingFeatureExtractor R)
    (op : Op R) (h : e.window.maxlen = windowSize ∧ e.CallsSeen (callsSinceReset ops)) :
    (e.step op).2.window.maxlen = windowSize ∧
      (e.step op).2.CallsSeen (callsSinceReset (ops ++ [op])) := by
  rw [callsSinceReset_concat]
  cases op with
  | extract call => exact ⟨h.1, h.2.advance call⟩
  | reset => exact ⟨h.1, callsSeen_reset e⟩

omit [PyFloat R] in
/-- The current call is among the recent calls of a window with room. -/
theorem one_le_idFreq {windowSize : ℕ} (hw : 1 ≤ windowSize) (H : List (ExtractCall R))
    (call : ExtractCall R) :
    1 ≤ (recentCalls windowSize (H ++ [call])).countP fun c => c.canId = call.canId := by
  have hle : (H ++ [call]).length - min (H ++ [call]).length windowSize ≤ H.length := by
    rw [List.length_append, List.length_singleton]
    omega
  rw [recentCalls, List.drop_append_of_le_length hle, List.countP_append]
  simp

omit [PyFloat R] in
theorem idFreq_le (windowSize : ℕ) (H : List (ExtractCall R)) (call : ExtractCall R) :
    ((recentCalls windowSize (H ++ [call])).countP fun c => c.canId = call.canId) ≤
      min (H.length + 1) windowSize := by
  refine List.countP_le_length.trans ?_
  rw [recentCalls, List.length_drop, List.length_append, List.length_singleton]
  omega

/-- **The extractor computes the features of its history.** Over every sequence of
calls and resets each call returns `featuresOf` of the calls since the last reset;
in a window with room the frequency counts the call itself and the ratio is in
`(0, 1]`. -/
theorem extractor_computes_history (windowSize : ℕ) (ops : List (Op R))
    (hdlc : ∀ call, Op.extract call ∈ ops → 0 ≤ call.dlc) :
    Machine.outputs step (new windowSize) ops = Machine.replay (answer windowSize) [] ops ∧
      ∀ pre call post, ops = pre ++ Op.extract call :: post → 1 ≤ windowSize →
        let H := callsSinceReset pre ++ [call]
        let features := ((Machine.final step (new windowSize) pre).extractFeatures call).1
        1 ≤ features.idFreqWindow ∧
          features.idFreqWindow ≤ ((min H.length windowSize : ℕ) : R) ∧
          0 < features.idRatioWindow ∧ features.idRatioWindow ≤ 1 := by
  have hnew : (new windowSize : StreamingFeatureExtractor R).window.maxlen = windowSize ∧
      CallsSeen (new windowSize : StreamingFeatureExtractor R) (callsSinceReset []) :=
    ⟨rfl, callsSeen_new windowSize⟩
  constructor
  · refine Machine.outputs_eq_replay
      (P := fun op => ∀ call, op = Op.extract call → 0 ≤ call.dlc)
      (fun pre s op _ => CallsSeen.step pre s op) ?_ hnew ops
      (fun op hop call hcall => hdlc call (hcall ▸ hop))
    intro pre e op hop h
    cases op with
    | extract call =>
      rw [answer, ← h.1, ← h.2.extractFeatures (hop call rfl)]
      rfl
    | reset => rfl
  · intro pre call post hops hw
    obtain ⟨hmax, hseen⟩ := Machine.history_inv hnew CallsSeen.step pre
    have hcall := hdlc call (by simp [hops])
    dsimp only
    rw [hseen.extractFeatures hcall, hmax, List.length_append, List.length_singleton]
    have hfreq := one_le_idFreq hw (callsSinceReset pre) call
    have hle := idFreq_le windowSize (callsSinceReset pre) call
    rw [featuresOf]
    dsimp only
    rw [if_neg (by omega)]
    generalize (recentCalls windowSize (callsSinceReset pre ++ [call])).countP _ = freq at *
    have hsize : 0 < min ((callsSinceReset pre).length + 1) windowSize := by omega
    refine ⟨by exact_mod_cast hfreq, by exact_mod_cast hle, ?_, ?_⟩
    · have : (0 : R) < freq := by exact_mod_cast hfreq
      have : (0 : R) < (min ((callsSinceReset pre).length + 1) windowSize : ℕ) := by
        exact_mod_cast hsize
      positivity
    · rw [div_le_one (by exact_mod_cast hsize)]
      exact_mod_cast hle

/-- A door frame, a reset and two more door frames. -/
def doorOps : List (Op ℚ) :=
  [.extract ⟨canIdBodyDoors, 2, [255, 0, 1], 3⟩, .reset, .extract ⟨canIdBodyDoors, 2, [255, 1], 2⟩,
    .extract ⟨canIdBodyDoors, 8, [0, 1, 1], 1⟩]

theorem extractor_computes_history_doors :
    Machine.outputs step (new 1) doorOps = Machine.replay (answer 1) [] doorOps :=
  (extractor_computes_history 1 doorOps (by simp [doorOps])).1

end StreamingFeatureExtractor

end CanSentinel
