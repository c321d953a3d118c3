import CanSentinel.Lib.Hamming
import CanSentinel.Ml.FeatureHistory

/-!
# The payload change rate (`ml/features.py`)

`calculate_payload_change_rate` counts the differing bytes of two payloads up to the length
of the shorter one and adds the difference of the lengths. The extractor compares every frame
with the frame of its id before it.

- `PayloadMetric`: the laws of a metric, with the bounds that the lengths give.
- `changeRates`: what the frames of an id get in a run, whatever frames of other ids come
  between them; `changeRates_eq` reads it off the payloads.
- `payload_change_rate_metric`: the laws, and the bound along a run.
-/

namespace CanSentinel

variable {R : Type} [PyFloat R]

/-! ## The metric -/

/-- A metric on payloads that charges for every byte one of them has alone. -/
structure PayloadMetric (d : Bytes → Bytes → R) : Prop where
  eq_zero_iff : ∀ a b, d a b = 0 ↔ a = b
  comm : ∀ a b, d a b = d b a
  triangle : ∀ a b c, d a c ≤ d a b + d b c
  length_le : ∀ a b, |(a.length : R) - b.length| ≤ d a b
  le_length : ∀ a b, d a b ≤ (max a.length b.length : ℕ)

/-- The change rate against an earlier payload. -/
def changeRate (curr prev : Bytes) : R :=
  FeatureExtractor.calculatePayloadChangeRate curr (some prev)

/-- The change rate is the Hamming distance of lists. -/
theorem changeRate_eq (curr prev : Bytes) :
    (changeRate curr prev : R) = listDistance curr prev :=
  calculatePayloadChangeRate_some curr prev

theorem payloadMetric_changeRate : PayloadMetric (changeRate : Bytes → Bytes → R) where
  eq_zero_iff a b := by
    rw [changeRate_eq, Nat.cast_eq_zero, listDistance_eq_zero_iff]
  comm a b := by
    rw [changeRate_eq, changeRate_eq, listDistance_comm]
  triangle a b c := by
    rw [changeRate_eq, changeRate_eq, changeRate_eq]
    exact_mod_cast listDistance_triangle a b c
  length_le a b := by
    have hle := max_sub_min_le_listDistance a b
    have hab : (a.length : R) ≤ b.length + listDistance a b := by
      exact_mod_cast (by omega : a.length ≤ b.length + listDistance a b)
    have hba : (b.length : R) ≤ a.length + listDistance a b := by
      exact_mod_cast (by omega : b.length ≤ a.length + listDistance a b)
    rw [changeRate_eq, abs_le]
    constructor
    · linarith
    · linarith
  le_length a b := by
    rw [changeRate_eq]
    exact_mod_cast listDistance_le_max a b

/-! ## Runs -/

namespace StreamingFeatureExtractor

/-- The change rates of the frames of an id in a run. -/
def changeRates (canId : ℤ) (e : StreamingFeatureExtractor R) (calls : List (ExtractCall R)) :
    List R :=
  ((calls.zip (Machine.outputs extractFeatures e calls)).filter fun r => r.1.canId = canId).map
    fun r => r.2.payloadChangeRate

theorem changeRates_cons_of_eq {canId : ℤ} {e : StreamingFeatureExtractor R}
    {call : ExtractCall R} (h : call.canId = canId) (calls : List (ExtractCall R)) :
    changeRates canId e (call :: calls) =
      (e.extractFeatures call).1.payloadChangeRate :: changeRates canId (e.advance call) calls := by
  rw [changeRates, Machine.outputs_cons, List.zip_cons_cons,
    List.filter_cons_of_pos (by simp [h]), List.map_cons]
  rfl

theorem changeRates_cons_of_ne {canId : ℤ} {e : StreamingFeatureExtractor R}
    {call : ExtractCall R} (h : call.canId ≠ canId) (calls : List (ExtractCall R)) :
    changeRates canId e (call :: calls) = changeRates canId (e.advance call) calls := by
  rw [changeRates, Machine.outputs_cons, List.zip_cons_cons, List.filter_cons_of_neg (by simp [h])]
  rfl

omit [PyFloat R] in
/-- The payload that the extractor keeps of a frame. -/
theorem lookup_advance (e : StreamingFeatureExtractor R) (call : ExtractCall R) :
    (e.advance call).lastPayloadPerId.lookup call.canId = some call.payload :=
  Finmap.lookup_insert _

/-- **The change rates of an id** are the steps of its payloads. -/
theorem changeRates_eq {canId : ℤ} {e : StreamingFeatureExtractor R} {prev : Bytes}
    (h : e.lastPayloadPerId.lookup canId = some prev) (calls : List (ExtractCall R)) :
    changeRates canId e calls =
      steps changeRate prev ((calls.filter fun c => c.canId = canId).map ExtractCall.payload) := by
  induction calls generalizing e prev with
  | nil => rfl
  | cons call calls ih =>
    by_cases hid : call.canId = canId
    · have hrate : (e.extractFeatures call).1.payloadChangeRate =
          changeRate call.payload prev := by
        rw [← hid] at h
        exact congrArg (FeatureExtractor.calculatePayloadChangeRate call.payload) h
      have hnext : (e.advance call).lastPayloadPerId.lookup canId = some call.payload := by
        rw [← hid]
        exact lookup_advance e call
      rw [changeRates_cons_of_eq hid, ih hnext, hrate, List.filter_cons_of_pos (by simp [hid])]
      rfl
    · have hnext : (e.advance call).lastPayloadPerId.lookup canId = some prev := by
        rw [← h]
        exact Finmap.lookup_insert_of_ne _ (Ne.symm hid)
      rw [changeRates_cons_of_ne hid, ih hnext, List.filter_cons_of_neg (by simp [hid])]

/-- **The payload change rate is a metric.** So in every run of an extractor, from any state,
the change rate between two frames of one id is at most the sum of the change rates of the
frames of this id after the first, up to the second. -/
theorem payload_change_rate_metric :
    PayloadMetric (fun a b => (FeatureExtractor.calculatePayloadChangeRate a (some b) : R)) ∧
      ∀ (e : StreamingFeatureExtractor R) (first : ExtractCall R)
        (between : List (ExtractCall R)) (last : ExtractCall R), last.canId = first.canId →
          FeatureExtractor.calculatePayloadChangeRate last.payload (some first.payload) ≤
            (changeRates first.canId (e.extractFeatures first).2 (between ++ [last])).sum := by
  refine ⟨payloadMetric_changeRate, ?_⟩
  intro e first between last hid
  rw [extractFeatures_snd, changeRates_eq (lookup_advance e first), List.filter_append,
    List.filter_cons_of_pos (by simp [hid]), List.filter_nil, List.map_append, List.map_singleton]
  exact le_sum_steps payloadMetric_changeRate.triangle _ _ _

end StreamingFeatureExtractor

end CanSentinel
